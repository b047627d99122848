import ApiTypes.Proofs.Schema.Ids
import ApiTypes.Snapshot
/-!
# The shapes of documents

A decoder accepts a shape if it reads just the documents of the shape.  Decoders of records are put
together field by field, and so are their shapes (`Reads.required`, `Reads.optional`): a record is an
object with its fields, or the list of them in order (`Reads.accepts`).  A snapshot's documents are
refused for their shape alone (`snapshot_documents_accepted`).
-/
namespace ApiTypes

open RecordReader (build_required build_optional fieldValue faultOf)

/-! ## Shapes -/

structure FieldShape where
  name : Text
  needed : Bool
  holds : Json → Prop

def FieldShape.Admits (f : FieldShape) : Option Json → Prop
  | some v => f.holds v
  | none => f.needed = false

namespace Json

def IsAnything (_ : Json) : Prop := True

def IsText (v : Json) : Prop := ∃ t, v = .str t

def IsInt64 (v : Json) : Prop := ∃ n : Int64, v = .int n.toInt

def IsListOf (P : Json → Prop) (v : Json) : Prop := ∃ items, v = .arr items ∧ ∀ x ∈ items, P x

def IsNullOr (P : Json → Prop) (v : Json) : Prop := v = .null ∨ P v

/-- A record with some fields, in either of its two forms. -/
inductive IsRecord (fields : List FieldShape) : Json → Prop where
  /-- Members of other names may hold anything. -/
  | object {members : List (Text × Json)}
    (holds : ∀ f ∈ fields, ∀ v, (f.name, v) ∈ members → f.holds v)
    (there : ∀ f ∈ fields, f.needed = true → ∃ v, (f.name, v) ∈ members) :
    IsRecord fields (.obj members)
  /-- The list may end before a field that may be missing. -/
  | list {items : List Json} (short : items.length ≤ fields.length)
    (admits : ∀ (i : Nat) (f : FieldShape), fields[i]? = some f → f.Admits items[i]?) : IsRecord fields (.arr items)

/-! ## Members under their keys -/

theorem mem_of_lookup {key : Text} {v : Json} : ∀ {members : List (Text × Json)},
    lookup key members = some v → (key, v) ∈ members
  | [], h => by cases h
  | (k, w) :: rest, h => by
    rw [lookup] at h
    by_cases hk : k = key
    · rw [if_pos hk] at h
      cases h
      exact hk ▸ List.mem_cons_self
    · rw [if_neg hk] at h
      exact List.mem_cons_of_mem _ (mem_of_lookup h)

theorem lookup_ne_none_of_mem {key : Text} {v : Json} : ∀ {members : List (Text × Json)},
    (key, v) ∈ members → lookup key members ≠ none
  | (k, w) :: rest, h => by
    rw [lookup]
    by_cases hk : k = key
    · rw [if_pos hk]
      exact Option.some_ne_none w
    · rw [if_neg hk]
      have hrest := (List.mem_cons.1 h).resolve_left (fun e => hk (congrArg Prod.fst e).symm)
      exact lookup_ne_none_of_mem hrest

theorem lookup_zip_of_mem {key : Text} {v : Json} : ∀ {names : List Text} {items : List Json},
    names.Nodup → (key, v) ∈ names.zip items → lookup key (names.zip items) = some v
  | [], _, _, h => by cases h
  | _ :: _, [], _, h => by cases h
  | n :: names, item :: items, hnodup, h => by
    rw [List.zip_cons_cons] at h ⊢
    rw [lookup]
    rcases List.mem_cons.1 h with h | h
    · cases h
      rw [if_pos rfl]
    · have hne : n ≠ key := by
        rintro rfl
        exact (List.nodup_cons.1 hnodup).1 (List.of_mem_zip h).1
      rw [if_neg hne, lookup_zip_of_mem (List.nodup_cons.1 hnodup).2 h]

end Json

open Json (IsAnything IsText IsInt64 IsListOf IsNullOr IsRecord)

/-! ## What decoders accept -/

/-- A decoder reads just the documents of a shape. -/
def Decoder.Accepts {α : Type} (read : Decoder α) (P : Json → Prop) : Prop :=
  ∀ v, (∃ a, read v = .ok a) ↔ P v

namespace Decoder

variable {α : Type} {item : Decoder α} {P : Json → Prop}

theorem accepts_any (f : Json → α) : (any f).Accepts IsAnything :=
  fun v => ⟨fun _ => trivial, fun _ => ⟨f v, rfl⟩⟩

theorem accepts_nullable_any (f : Json → α) : (nullable (any f)).Accepts IsAnything :=
  fun v => ⟨fun _ => trivial, fun _ => by cases v <;> exact ⟨_, rfl⟩⟩

theorem accepts_text : text.Accepts IsText := by
  intro v
  cases v with
  | str t => exact ⟨fun _ => ⟨t, rfl⟩, fun _ => ⟨t, rfl⟩⟩
  | _ => exact ⟨nofun, nofun⟩

theorem accepts_int64 : int64.Accepts IsInt64 := by
  intro v
  cases v with
  | int n =>
    constructor
    · rintro ⟨a, ha⟩
      rw [int64] at ha
      split at ha
      · rename_i hn
        exact ⟨Int64.ofInt n, congrArg Json.int (Int64.toInt_ofInt_of_le hn.1 hn.2).symm⟩
      · cases ha
    · rintro ⟨m, ⟨⟩⟩
      exact ⟨m.toInt, if_pos ⟨m.le_toInt, m.toInt_lt⟩⟩
  | _ => exact ⟨nofun, nofun⟩

theorem Accepts.list (h : item.Accepts P) : (Decoder.list item).Accepts (IsListOf P) := by
  intro v
  cases v with
  | arr items =>
    refine (Attempt.exists_mapM_eq_ok_iff item items).trans ⟨fun hitems => ?_, ?_⟩
    · exact ⟨items, rfl, fun x hx => (h x).1 (hitems x hx)⟩
    · rintro ⟨_, ⟨⟩, hitems⟩ x hx
      exact (h x).2 (hitems x hx)
  | _ => exact ⟨nofun, nofun⟩

theorem Accepts.nullable (h : item.Accepts P) : (Decoder.nullable item).Accepts (IsNullOr P) := by
  intro v
  have hitem : ∀ w, (∃ a, (item w).map some = .ok a) ↔ P w := by
    intro w
    rw [← h w]
    cases item w with
    | ok a => exact ⟨fun _ => ⟨a, rfl⟩, fun _ => ⟨some a, rfl⟩⟩
    | error fault => exact ⟨nofun, nofun⟩
  cases v with
  | null => exact ⟨fun _ => Or.inl rfl, fun _ => ⟨none, rfl⟩⟩
  | _ => exact (hitem _).trans ⟨Or.inr, fun h => h.resolve_left nofun⟩

end Decoder

/-! ## Records -/

namespace RecordReader

variable {α β : Type} {fields : List FieldShape}

/-- What a reader of a record does with the fields of a shape: it finds a member wrong if a field of
that name may not hold it, and makes a record of members that have all fields. -/
structure Reads (r : RecordReader α) (fields : List FieldShape) : Prop where
  names_eq : r.names = fields.map FieldShape.name
  nodup : (fields.map FieldShape.name).Nodup
  fault?_iff : ∀ key v, r.fault? key v = none ↔ ∀ f ∈ fields, f.name = key → f.holds v
  build_iff : ∀ members, (∃ a, r.build members = .ok a) ↔
    ∀ f ∈ fields, f.Admits (Json.lookup f.name members)

theorem Reads.start (a : α) : (RecordReader.start a).Reads [] where
  names_eq := rfl
  nodup := List.nodup_nil
  fault?_iff _ _ := ⟨fun _ => nofun, fun _ => rfl⟩
  build_iff _ := ⟨fun _ => nofun, fun _ => ⟨a, rfl⟩⟩

theorem faultOf_eq_none_iff {read : Decoder α} {P : Json → Prop} (h : read.Accepts P) (v : Json) :
    faultOf read v = none ↔ P v := by
  rw [← h v, faultOf]
  cases read v with
  | ok a => exact ⟨fun _ => ⟨a, rfl⟩, fun _ => rfl⟩
  | error fault => exact ⟨nofun, nofun⟩

/-- **One more field**, whatever becomes of a record without it. -/
theorem Reads.concat {r : RecordReader (α → β)} (h : r.Reads fields) {r' : RecordReader β}
    {f : FieldShape} (hname : f.name ∉ fields.map FieldShape.name) {read : Decoder α}
    (hread : read.Accepts f.holds) {missing : Except ShapeFault α}
    (hmissing : (∃ a, missing = .ok a) ↔ f.needed = false) (hnames : r'.names = r.names ++ [f.name])
    (hfault : ∀ key v, r'.fault? key v = if key = f.name then faultOf read v else r.fault? key v)
    (hbuild : ∀ members, r'.build members = (do
      let g ← r.build members
      let a ← fieldValue missing read (Json.lookup f.name members)
      return g a)) : r'.Reads (fields ++ [f]) where
  names_eq := by rw [hnames, h.names_eq, List.map_append, List.map_singleton]
  nodup := by
    rw [List.map_append, List.map_singleton]
    refine List.nodup_append.2 ⟨h.nodup, List.pairwise_singleton _ _, fun n hn m hm hnm => ?_⟩
    rw [List.mem_singleton.1 hm] at hnm
    exact hname (hnm ▸ hn)
  fault?_iff key v := by
    rw [hfault, List.forall_mem_append, List.forall_mem_singleton]
    by_cases hkey : key = f.name
    · subst hkey
      have hothers : ∀ g ∈ fields, g.name = f.name → g.holds v :=
        fun g hg hgf => absurd (hgf ▸ List.mem_map_of_mem hg) hname
      rw [if_pos rfl, faultOf_eq_none_iff hread]
      exact ⟨fun hv => ⟨hothers, fun _ => hv⟩, fun hv => hv.2 rfl⟩
    · rw [if_neg hkey, h.fault?_iff]
      exact ⟨fun hv => ⟨hv, fun e => absurd e.symm hkey⟩, fun hv => hv.1⟩
  build_iff members := by
    have hvalue : (∃ a, fieldValue missing read (Json.lookup f.name members) = .ok a) ↔
        f.Admits (Json.lookup f.name members) := by
      cases Json.lookup f.name members with
      | none => exact hmissing
      | some v => exact hread v
    rw [hbuild, List.forall_mem_append, List.forall_mem_singleton, ← h.build_iff, ← hvalue]
    simp only [Attempt.bind_eq_ok_iff, Attempt.pure_eq_ok_iff]
    constructor
    · rintro ⟨_, g, hg, a, ha, -⟩
      exact ⟨⟨g, hg⟩, a, ha⟩
    · rintro ⟨⟨g, hg⟩, a, ha⟩
      exact ⟨g a, g, hg, a, ha, rfl⟩

theorem Reads.required {r : RecordReader (α → β)} (h : r.Reads fields) (name : Text)
    {read : Decoder α} {P : Json → Prop} (hread : read.Accepts P)
    (hname : name ∉ fields.map FieldShape.name) :
    (r.required name read).Reads (fields ++ [⟨name, true, P⟩]) := by
  have hmissing : (∃ a : α, Except.error (ShapeFault.missingField name) = .ok a) ↔ true = false :=
    ⟨nofun, nofun⟩
  exact h.concat (f := ⟨name, true, P⟩) hname hread hmissing rfl (fun _ _ => rfl)
    (build_required r name read)

theorem Reads.optional {r : RecordReader (α → β)} (h : r.Reads fields) (name : Text) (default : α)
    {read : Decoder α} {P : Json → Prop} (hread : read.Accepts P)
    (hname : name ∉ fields.map FieldShape.name) :
    (r.optional name default read).Reads (fields ++ [⟨name, false, P⟩]) :=
  h.concat (f := ⟨name, false, P⟩) hname hread ⟨fun _ => rfl, fun _ => ⟨default, rfl⟩⟩ rfl
    (fun _ _ => rfl) (build_optional r name default read)

theorem check_eq_ok_iff {r : RecordReader α} {members : List (Text × Json)} :
    r.check members = .ok () ↔ ∀ m ∈ members, r.fault? m.1 m.2 = none := by
  rw [← List.findSome?_eq_none_iff, check]
  cases members.findSome? (fun m => r.fault? m.1 m.2) with
  | none => exact ⟨fun _ => rfl, fun _ => rfl⟩
  | some fault => simp

namespace Reads

variable {r : RecordReader α} (h : r.Reads fields)
include h

theorem decode_obj_iff (title : Text) (members : List (Text × Json)) :
    (∃ a, r.decode title (.obj members) = .ok a) ↔ IsRecord fields (.obj members) := by
  have hdecode : (∃ a, r.decode title (.obj members) = .ok a) ↔
      r.check members = .ok () ∧ ∃ a, r.build members = .ok a := by
    simp only [decode, Attempt.bind_eq_ok_iff]
    constructor
    · rintro ⟨a, _, hcheck, ha⟩
      exact ⟨hcheck, a, ha⟩
    · rintro ⟨hcheck, a, ha⟩
      exact ⟨a, (), hcheck, ha⟩
  rw [hdecode, check_eq_ok_iff, h.build_iff]
  constructor
  · rintro ⟨hcheck, hbuild⟩
    refine .object (fun f hf v hv => (h.fault?_iff _ _).1 (hcheck _ hv) f hf rfl)
      (fun f hf hneeded => ?_)
    have hadmits := hbuild f hf
    cases hlookup : Json.lookup f.name members with
    | some v => exact ⟨v, Json.mem_of_lookup hlookup⟩
    | none =>
      rw [hlookup] at hadmits
      exact absurd (hneeded.symm.trans hadmits) (by decide)
  · rintro (⟨holds, there⟩)
    refine ⟨fun m hm => (h.fault?_iff _ _).2 (fun f hf hname => ?_), fun f hf => ?_⟩
    · exact holds f hf m.2 (hname ▸ hm)
    · cases hlookup : Json.lookup f.name members with
      | some v => exact holds f hf v (Json.mem_of_lookup hlookup)
      | none =>
        refine Bool.eq_false_iff.2 (fun hneeded => ?_)
        obtain ⟨v, hv⟩ := there f hf hneeded
        exact Json.lookup_ne_none_of_mem hv hlookup

theorem lookup_zip (items : List Json) {i : Nat} {f : FieldShape} (hi : fields[i]? = some f) :
    Json.lookup f.name (r.names.zip items) = items[i]? := by
  obtain ⟨hlt, rfl⟩ := List.getElem?_eq_some_iff.1 hi
  have hplace : (fields.map FieldShape.name).idxOf fields[i].name = i := by
    have hlt' : i < (fields.map FieldShape.name).length := by rwa [List.length_map]
    rw [← List.getElem_map FieldShape.name (h := hlt'), h.nodup.idxOf_getElem]
  rw [h.names_eq, Json.lookup_zip _ _ _ (List.mem_map_of_mem (List.getElem_mem hlt)), hplace]

theorem decode_arr_iff (title : Text) (items : List Json) :
    (∃ a, r.decode title (.arr items) = .ok a) ↔ IsRecord fields (.arr items) := by
  have hlength : r.names.length = fields.length := by rw [h.names_eq, List.length_map]
  have hbuild : (∃ a, r.build (r.names.zip items) = .ok a) ↔
      ∀ (i : Nat) (f : FieldShape), fields[i]? = some f → f.Admits items[i]? := by
    rw [h.build_iff]
    constructor
    · intro hall i f hi
      rw [← h.lookup_zip items hi]
      exact hall f (List.mem_of_getElem? hi)
    · intro hall f hf
      obtain ⟨i, hi⟩ := List.mem_iff_getElem?.1 hf
      rw [h.lookup_zip items hi]
      exact hall i f hi
  -- an item that its field may not hold is found wrong in either step
  have hcheck : (∃ a, r.build (r.names.zip items) = .ok a) →
      r.check (r.names.zip items) = .ok () := by
    intro ha
    refine check_eq_ok_iff.2 (fun m hm => (h.fault?_iff _ _).2 (fun f hf hname => ?_))
    have hadmits := (h.build_iff _).1 ha f hf
    rw [hname, Json.lookup_zip_of_mem (h.names_eq ▸ h.nodup) hm] at hadmits
    exact hadmits
  constructor
  · rintro ⟨a, ha⟩
    obtain ⟨_, -, ha⟩ := Attempt.bind_eq_ok_iff.1 ha
    split at ha
    · rename_i b hb
      split at ha
      · cases ha
      · rename_i hshort
        exact .list (hlength ▸ Nat.not_lt.1 hshort) (hbuild.1 ⟨b, hb⟩)
    · cases ha
  · rintro (_ | ⟨hshort, hadmits⟩)
    obtain ⟨a, ha⟩ := hbuild.2 hadmits
    refine ⟨a, Attempt.bind_eq_ok_iff.2 ⟨(), hcheck ⟨a, ha⟩, ?_⟩⟩
    rw [ha]
    exact if_neg (Nat.not_lt.2 (hlength ▸ hshort))

/-- **A record is read just if it has the shape of its fields.** -/
theorem accepts (title : Text) : (r.decode title).Accepts (IsRecord fields) := by
  intro v
  cases v with
  | obj members => exact h.decode_obj_iff title members
  | arr items => exact h.decode_arr_iff title items
  | _ => exact ⟨nofun, nofun⟩

end Reads

end RecordReader

/-! ## The documents of a snapshot -/

/-- What a structure has; its schema may be anything. -/
def Structure.fieldShapes : List FieldShape :=
  [⟨"id", true, IsAnything⟩, ⟨"name", true, IsText⟩, ⟨"type", false, IsNullOr IsText⟩,
    ⟨"values", false, IsNullOr (IsListOf IsAnything)⟩, ⟨"schema", false, IsAnything⟩]

def Selection.fieldShapes : List FieldShape :=
  [⟨"name", true, IsText⟩, ⟨"description", false, IsText⟩, ⟨"access", false, IsText⟩,
    ⟨"schema", false, IsAnything⟩, ⟨"structures", false, IsListOf (IsRecord Structure.fieldShapes)⟩]

def ErrorEntry.fieldShapes : List FieldShape :=
  [⟨"code", true, IsInt64⟩, ⟨"message", true, IsText⟩, ⟨"description", false, IsText⟩]

def IsSectionList : Json → Prop := IsRecord [⟨"sections", true, IsListOf IsText⟩]

def IsErrorTable : Json → Prop :=
  IsRecord [⟨"errors", true, IsListOf (IsRecord ErrorEntry.fieldShapes)⟩]

def IsSectionSchema : Json → Prop :=
  IsRecord [⟨"selections", false, IsListOf (IsRecord Selection.fieldShapes)⟩]

open RecordReader (Reads)

theorem Structure.accepts_decode : Structure.decode.Accepts (IsRecord Structure.fieldShapes) :=
  ((Reads.start Structure.mk).required "id" (Decoder.accepts_any Json.idText) (by decide)
    |>.required "name" Decoder.accepts_text (by decide)
    |>.optional "type" none Decoder.accepts_text.nullable (by decide)
    |>.optional "values" none (Decoder.accepts_any Json.idText).list.nullable (by decide)
    |>.optional "schema" none (Decoder.accepts_nullable_any Fields.ofJson)
      (by decide)).accepts "Structure"

theorem Selection.accepts_decode : Selection.decode.Accepts (IsRecord Selection.fieldShapes) :=
  ((Reads.start Selection.mk).required "name" Decoder.accepts_text (by decide)
    |>.optional "description" [] Decoder.accepts_text (by decide)
    |>.optional "access" [] Decoder.accepts_text (by decide)
    |>.optional "schema" [] (Decoder.accepts_any Fields.ofJson) (by decide)
    |>.optional "structures" [] Structure.accepts_decode.list (by decide)).accepts "Selection"

theorem ErrorEntry.accepts_decode : ErrorEntry.decode.Accepts (IsRecord ErrorEntry.fieldShapes) :=
  ((Reads.start ErrorEntry.mk).required "code" Decoder.accepts_int64 (by decide)
    |>.required "message" Decoder.accepts_text (by decide)
    |>.optional "description" [] Decoder.accepts_text (by decide)).accepts "ErrorEntry"

theorem accepts_decodeSectionList : decodeSectionList.Accepts IsSectionList :=
  ((Reads.start id).required "sections" Decoder.accepts_text.list (by decide)).accepts "SectionList"

theorem accepts_decodeErrorTable : decodeErrorTable.Accepts IsErrorTable :=
  ((Reads.start id).required "errors" ErrorEntry.accepts_decode.list (by decide)).accepts "ErrorTable"

theorem accepts_decodeSectionSchema : decodeSectionSchema.Accepts IsSectionSchema :=
  ((Reads.start id).optional "selections" [] Selection.accepts_decode.list
    (by decide)).accepts "SectionSchema"

/-- An answer that is given under a condition, and else refused for the shape of a document. -/
def GivenJustIf {α : Type} (what : Text) (P : Prop) (answer : Except Failure α) : Prop :=
  (P ∧ ∃ a, answer = .ok a) ∨
    (¬ P ∧ ∃ fault, answer = .error (.invalidDocument what (.misshapen fault)))

theorem Document.givenJustIf_decode {α : Type} {what : Text} {read : Decoder α} {P : Json → Prop}
    (h : read.Accepts P) (v : Json) : GivenJustIf what (P v) (Document.decode what read v) := by
  unfold Document.decode
  cases hread : read v with
  | ok a => exact Or.inl ⟨(h v).1 ⟨a, hread⟩, a, rfl⟩
  | error fault =>
    refine Or.inr ⟨fun hv => ?_, fault, rfl⟩
    obtain ⟨a, ha⟩ := (h v).2 hv
    rw [hread] at ha
    cases ha

/-- **A snapshot's documents are accepted just in their shapes**, each as an object or as the list of
its fields in order, and refused as documents of another shape otherwise. -/
theorem snapshot_documents_accepted (d : Disk) (root : Text) :
    (∀ v, d.load (Snapshot.sectionsPath root) = .ok v →
      GivenJustIf Document.sectionListName (IsSectionList v) (Snapshot.source d root).sections) ∧
    (∀ v, d.load (Snapshot.errorsPath root) = .ok v →
      GivenJustIf Document.errorTableName (IsErrorTable v) (Snapshot.source d root).errors) ∧
    ∀ name v, d.load (Snapshot.schemaPath root name) = .ok v →
      GivenJustIf (Document.schemaName name) (IsSectionSchema v)
        ((Snapshot.source d root).schema name) := by
  refine ⟨fun v hv => ?_, fun v hv => ?_, fun name v hv => ?_⟩
  · rw [Snapshot.source, hv]
    exact Document.givenJustIf_decode accepts_decodeSectionList v
  · rw [Snapshot.source, hv]
    exact Document.givenJustIf_decode accepts_decodeErrorTable v
  · have hanswer : (Snapshot.source d root).schema name = Document.sectionSchema name v := by
      change d.load (Snapshot.schemaPath root name) >>= Document.sectionSchema name = _
      rw [hv]
      rfl
    rw [hanswer]
    exact Document.givenJustIf_decode accepts_decodeSectionSchema v

/-- A snapshot of documents that are written as lists; a code in the error table is too great. -/
def listedSnapshot : Disk where
  entries :=
    [(["snap"], .directory), (["snap", "schema"], .directory),
      (["snap", "sections.json"], .file (Text.utf8 "[[\"user\"]]")),
      (["snap", "errors.json"],
        .file (Text.utf8 "[[[5, \"no\"], \x7b\"message\": \"a\", \"code\": 9223372036854775808\x7d]]")),
      (["snap", "schema", "user.json"],
        .file (Text.utf8 "[[[\"bars\", \"\", \"\", 3, [[null, \"x\", null]]]]]"))]
  home := []

def listedSections : Json := .arr [.arr [.str "user"]]

def listedErrors : Json :=
  .arr [.arr [.arr [.int 5, .str "no"], .obj [("message", .str "a"), ("code", .int 9223372036854775808)]]]

def listedSchema : Json :=
  .arr [.arr [.arr [.str "bars", .str "", .str "", .int 3, .arr [.arr [.null, .str "x", .null]]]]]

theorem snapshot_documents_accepted_listed :
    (listedSnapshot.load (Snapshot.sectionsPath "snap") = .ok listedSections ∧
      listedSnapshot.load (Snapshot.errorsPath "snap") = .ok listedErrors ∧
      listedSnapshot.load (Snapshot.schemaPath "snap" "user") = .ok listedSchema) ∧
    IsSectionList listedSections ∧
    (¬ IsErrorTable listedErrors ∧ ∃ fault, (Snapshot.source listedSnapshot "snap").errors =
      .error (.invalidDocument "error table" (.misshapen fault))) ∧
    IsSectionSchema listedSchema := by
  have hloads : listedSnapshot.load (Snapshot.sectionsPath "snap") = .ok listedSections ∧
      listedSnapshot.load (Snapshot.errorsPath "snap") = .ok listedErrors ∧
      listedSnapshot.load (Snapshot.schemaPath "snap" "user") = .ok listedSchema :=
    ⟨rfl, rfl, rfl⟩
  obtain ⟨hsections, herrors, hschema⟩ := snapshot_documents_accepted listedSnapshot "snap"
  refine ⟨hloads, ?_, ?_, ?_⟩
  · rcases hsections _ hloads.1 with h | ⟨-, fault, h⟩
    · exact h.1
    · cases h
  · rcases herrors _ hloads.2.1 with ⟨-, a, h⟩ | h
    · cases h
    · exact h
  · rcases hschema _ _ hloads.2.2 with h | ⟨-, fault, h⟩
    · exact h.1
    · cases h

/-- **A document need not be an object**: the list of a record's fields is accepted as well. -/
theorem not_objects_only :
    listedSnapshot.load (Snapshot.sectionsPath "snap") = .ok listedSections ∧
    (∀ members, listedSections ≠ .obj members) ∧
    (Snapshot.source listedSnapshot "snap").sections = .ok ["user"] :=
  ⟨rfl, nofun, rfl⟩

end ApiTypes
