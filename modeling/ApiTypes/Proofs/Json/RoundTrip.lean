import ApiTypes.Proofs.Json.Scalar
import ApiTypes.Proofs.Json.Within
/-!
# Documents are read back

A text of a document is read back as the document, in whatever layout it is written
(`Document.parse_renderAt`).  The parts of a container are read back one by one (`readItems_behind`,
`readMembers_behind`), given that each of them is (`ReadsBack`).  Doubles are left out: they are read
with two roundings.
-/
namespace ApiTypes
namespace Json

/-! ## Documents without doubles -/

mutual

def hasDouble : Json → Bool
  | .double _ => true
  | .arr items => itemsHaveDouble items
  | .obj members => membersHaveDouble members
  | _ => false

def itemsHaveDouble : List Json → Bool
  | [] => false
  | v :: rest => v.hasDouble || itemsHaveDouble rest

def membersHaveDouble : List (Text × Json) → Bool
  | [] => false
  | (_, v) :: rest => v.hasDouble || membersHaveDouble rest

end

theorem hasDouble_of_mem_items {v : Json} : ∀ {items : List Json},
    itemsHaveDouble items = false → v ∈ items → v.hasDouble = false
  | w :: rest, h, hv => by
    rw [itemsHaveDouble, Bool.or_eq_false_iff] at h
    rcases List.mem_cons.1 hv with rfl | hv
    · exact h.1
    · exact hasDouble_of_mem_items h.2 hv

theorem hasDouble_of_mem_members {m : Text × Json} : ∀ {members : List (Text × Json)},
    membersHaveDouble members = false → m ∈ members → m.2.hasDouble = false
  | (k, w) :: rest, h, hm => by
    rw [membersHaveDouble, Bool.or_eq_false_iff] at h
    rcases List.mem_cons.1 hm with rfl | hm
    · exact h.1
    · exact hasDouble_of_mem_members h.2 hm

/-! ## Layouts -/

def IsBlank (t : Text) : Prop := ∀ c ∈ t, isSpace c = true

structure Layout.Blank (layout : Layout) : Prop where
  gap : ∀ level, IsBlank (layout.gap level)
  colon : ∃ blanks, layout.colon = ':' :: blanks ∧ IsBlank blanks

theorem blank_compact : compact.Blank := ⟨fun _ => nofun, [], rfl, nofun⟩

theorem blank_indented : indented.Blank := by
  refine ⟨fun level c hc => ?_, [' '], rfl, fun c hc => ?_⟩
  · rcases List.mem_cons.1 hc with rfl | hc
    · rfl
    · rw [List.eq_of_mem_replicate hc]
      rfl
  · rw [List.mem_singleton.1 hc]
    rfl

theorem skipSpace_append {blanks : Text} (h : IsBlank blanks) (t : Text) :
    skipSpace (blanks ++ t) = skipSpace t :=
  List.dropWhile_append_of_pos h

theorem readValue_append {blanks : Text} (h : IsBlank blanks) (depth : Nat) (t : Text) :
    readValue depth (blanks ++ t) = readValue depth t := by
  cases depth <;> rw [readValue, readValue, skipSpace_append h]

theorem renderItems_eq (layout : Layout) (level : Nat) : ∀ items : List Json,
    renderItems layout level items = items.map (renderAt layout level)
  | [] => rfl
  | v :: rest => by rw [renderItems, renderItems_eq layout level rest, List.map_cons]

def renderMember (layout : Layout) (level : Nat) (m : Text × Json) : Text :=
  renderString m.1 ++ layout.colon ++ renderAt layout level m.2

theorem renderMembers_eq (layout : Layout) (level : Nat) : ∀ members : List (Text × Json),
    renderMembers layout level members = members.map (renderMember layout level)
  | [] => rfl
  | (k, v) :: rest => by
    rw [renderMembers, renderMembers_eq layout level rest, List.map_cons]
    rfl

/-- What stands behind a part of a container: the other parts, the closing bracket and the rest. -/
def behind (layout : Layout) (level : Nat) (closing : Char) (rest : Text) : List Text → Text
  | [] => layout.gap level ++ closing :: rest
  | part :: parts =>
    ',' :: (layout.gap (level + 1) ++ (part ++ behind layout level closing rest parts))

theorem enclose_cons_append (layout : Layout) (level : Nat) (opening closing : Char) (rest : Text) :
    ∀ (parts : List Text) (part : Text),
      enclose layout level opening closing (part :: parts) ++ rest =
        opening :: (layout.gap (level + 1) ++ (part ++ behind layout level closing rest parts))
  | [], part => by
    simp [enclose, behind, Text.join_singleton]
  | next :: parts, part => by
    have ih := enclose_cons_append layout level opening closing rest parts next
    simp only [enclose, List.isEmpty_cons, Bool.false_eq_true, if_false, List.map_cons,
      Text.join_cons_cons, List.append_assoc, List.cons_append, List.nil_append,
      List.cons.injEq, true_and] at ih ⊢
    rw [behind, ← ih]

theorem length_le_behind (layout : Layout) (level : Nat) (closing : Char) (rest : Text) :
    ∀ parts : List Text, parts.length ≤ (behind layout level closing rest parts).length
  | [] => Nat.zero_le _
  | part :: parts => by
    have ih := length_le_behind layout level closing rest parts
    simp only [behind, List.length_cons, List.length_append]
    omega

theorem skipSpace_cons {c : Char} (hc : isSpace c = false) (rest : Text) :
    skipSpace (c :: rest) = c :: rest := by
  rw [skipSpace, List.dropWhile_cons, hc, if_neg Bool.false_ne_true]

variable {layout : Layout}

theorem skipSpace_behind_nil (hlayout : layout.Blank) (level : Nat) {closing : Char}
    (hclosing : isSpace closing = false) (rest : Text) :
    skipSpace (behind layout level closing rest []) = closing :: rest := by
  rw [behind, skipSpace_append (hlayout.gap level), skipSpace_cons hclosing]

theorem ends_cons {c : Char} (hc : isSpace c = true ∨ c ∈ [',', ']', '\x7d']) (rest : Text) :
    Ends (c :: rest) := by
  intro c' hc'
  cases hc'
  simp only [isSpace, Bool.or_eq_true, decide_eq_true_eq, List.mem_cons, List.not_mem_nil,
    or_false] at hc
  rcases hc with (((rfl | rfl) | rfl) | rfl) | rfl | rfl | rfl <;> decide

theorem ends_append {blanks t : Text} (hblanks : IsBlank blanks) (ht : Ends t) :
    Ends (blanks ++ t) := by
  cases blanks with
  | nil => exact ht
  | cons c blanks => exact ends_cons (Or.inl (hblanks c List.mem_cons_self)) _

theorem ends_behind (hlayout : layout.Blank) (level : Nat) {closing : Char}
    (hclosing : closing ∈ [']', '\x7d']) (rest : Text) (parts : List Text) :
    Ends (behind layout level closing rest parts) := by
  cases parts with
  | nil =>
    have hends : Ends (closing :: rest) := ends_cons (Or.inr (List.mem_cons_of_mem _ hclosing)) rest
    exact ends_append (hlayout.gap level) hends
  | cons part parts => exact ends_cons (Or.inr List.mem_cons_self) _

/-! ## Reading back -/

/-- Whatever it stands in, the text of a part is told from white space and from the end of the
container, and the reader gives what it stands for. -/
structure ReadsBack {α : Type} (read : Reader α) (t : Text) (a : α) : Prop where
  solid : ∃ c rest, t = c :: rest ∧ isSpace c = false ∧ c ≠ ']' ∧ c ≠ '\x7d'
  read_append : ∀ rest, Ends rest → read (t ++ rest) = .ok (a, rest)

variable {α : Type} {read : Reader α} {item : Reader Json} {t : Text} {a : α}

theorem ReadsBack.length_lt (h : ReadsBack read t a) (layout : Layout) (level : Nat) (closing : Char)
    (rest : Text) (parts : List Text) :
    parts.length < (t ++ behind layout level closing rest parts).length := by
  obtain ⟨c, front, rfl, _⟩ := h.solid
  have hlength := length_le_behind layout level closing rest parts
  simp only [List.cons_append, List.length_cons, List.length_append]
  omega

theorem ReadsBack.exists_cons (hlayout : layout.Blank) (level : Nat) (h : ReadsBack read t a)
    (rest : Text) : ∃ c front, t ++ rest = c :: front ∧
      skipSpace (layout.gap level ++ (t ++ rest)) = c :: front ∧ c ≠ ']' ∧ c ≠ '\x7d' := by
  obtain ⟨c, front, rfl, hspace, hbracket, hbrace⟩ := h.solid
  refine ⟨c, front ++ rest, rfl, ?_, hbracket, hbrace⟩
  rw [skipSpace_append (hlayout.gap level), List.cons_append, skipSpace_cons hspace]

/-! ## Lists -/

section

variable {rest next : Text} {c : Char} {v : Json} {steps : Nat} {done : List Json}

theorem readItems_bracket {last : Text} (h : item t = .ok (v, rest))
    (hrest : skipSpace rest = ']' :: last) :
    readItems item (steps + 1) done t = .ok ((v :: done).reverse, last) := by
  simp only [readItems, h, bind, Except.bind, hrest]
  rfl

theorem readItems_comma {last : Text} (h : item t = .ok (v, rest))
    (hrest : skipSpace rest = ',' :: last) (hlast : skipSpace last = c :: next) (hc : c ≠ ']') :
    readItems item (steps + 1) done t = readItems item steps (v :: done) (c :: next) := by
  simp only [readItems, h, bind, Except.bind, hrest, hlast]
  split
  · rename_i hnil
    cases hnil
  · rename_i hcons
    cases hcons
    exact absurd rfl hc
  · rfl

theorem readList_of_readItems {items : List Json} (ht : skipSpace t = c :: next) (hc : c ≠ ']')
    (h : readItems item (c :: next).length [] (c :: next) = .ok (items, rest)) :
    readList item t = .ok (.arr items, rest) := by
  rw [readList, ht]
  split
  · rename_i hnil
    cases hnil
  · rename_i hcons
    cases hcons
    exact absurd rfl hc
  · exact Attempt.bind_eq_ok_iff.2 ⟨_, h, rfl⟩

end

theorem readItems_behind (hlayout : layout.Blank) (level : Nat) (rest : Text) (text : Json → Text) :
    ∀ (vs : List Json) (v : Json) (steps : Nat) (done : List Json), vs.length < steps →
      (∀ w ∈ v :: vs, ReadsBack item (text w) w) →
      readItems item steps done (text v ++ behind layout level ']' rest (vs.map text)) =
        .ok (done.reverse ++ v :: vs, rest)
  | _, _, 0, _, hsteps, _ => absurd hsteps (Nat.not_lt_zero _)
  -- behind the last item comes the bracket
  | [], v, steps + 1, done, _, h => by
    have hv := (h v List.mem_cons_self).read_append _
      (ends_behind hlayout level (List.mem_cons_self : ']' ∈ [']', '\x7d']) rest [])
    rw [List.map_nil, readItems_bracket hv (skipSpace_behind_nil hlayout level rfl rest),
      List.reverse_cons]
  -- behind any other one a comma, white space and the next item
  | w :: vs, v, steps + 1, done, hsteps, h => by
    obtain ⟨hv, hvs⟩ := List.forall_mem_cons.1 h
    have hv := hv.read_append _
      (ends_behind hlayout level (List.mem_cons_self : ']' ∈ [']', '\x7d']) rest
        ((w :: vs).map text))
    obtain ⟨c, next, hnext, hskip, hc, _⟩ :=
      (hvs w List.mem_cons_self).exists_cons hlayout (level + 1)
        (behind layout level ']' rest (vs.map text))
    rw [readItems_comma hv (skipSpace_cons rfl _) hskip hc, ← hnext,
      readItems_behind hlayout level rest text vs w steps (v :: done)
        (Nat.lt_of_succ_lt_succ hsteps) hvs,
      List.reverse_cons, List.append_assoc, List.singleton_append]

theorem list_append (hlayout : layout.Blank) (level : Nat) {text : Json → Text}
    {items : List Json} (h : ∀ v ∈ items, ReadsBack item (text v) v) (rest : Text) :
    ∃ inside, enclose layout level '[' ']' (items.map text) ++ rest = '[' :: inside ∧
      readList item inside = .ok (.arr items, rest) := by
  cases items with
  | nil => exact ⟨_, rfl, rfl⟩
  | cons v vs =>
    refine ⟨_, enclose_cons_append layout level '[' ']' rest (vs.map text) (text v), ?_⟩
    have hv := h v List.mem_cons_self
    obtain ⟨c, next, hnext, hskip, hc, _⟩ :=
      hv.exists_cons hlayout (level + 1) (behind layout level ']' rest (vs.map text))
    have hsteps := hv.length_lt layout level ']' rest (vs.map text)
    rw [List.length_map] at hsteps
    have hitems := readItems_behind hlayout level rest text vs v _ [] hsteps h
    rw [hnext] at hitems
    exact readList_of_readItems hskip hc hitems

/-! ## Objects -/

theorem ReadsBack.member (hlayout : layout.Blank) (level : Nat) {m : Text × Json}
    (h : ReadsBack item (renderAt layout level m.2) m.2)
    (hskip : ∀ blanks t, IsBlank blanks → item (blanks ++ t) = item t) :
    ReadsBack (readMember item) (renderMember layout level m) m := by
  obtain ⟨blanks, hcolon, hblanks⟩ := hlayout.colon
  have htext : ∀ rest, renderMember layout level m ++ rest = '"' :: (m.1.flatMap escapeChar ++
      '"' :: ':' :: (blanks ++ (renderAt layout level m.2 ++ rest))) := by
    intro rest
    simp [renderMember, renderString, hcolon]
  refine ⟨⟨'"', _, (List.append_nil _).symm.trans (htext []), rfl, by decide, by decide⟩,
    fun rest hrest => ?_⟩
  rw [htext, readMember]
  refine Attempt.bind_eq_ok_iff.2 ⟨_, readString_escapes _ m.1 [], ?_⟩
  dsimp only
  rw [skipSpace_cons rfl]
  refine Attempt.bind_eq_ok_iff.2 ⟨_, (hskip _ _ hblanks).trans (h.read_append rest hrest), rfl⟩

theorem insertMember_of_not_mem {key : Text} (v : Json) : ∀ {members : List (Text × Json)},
    key ∉ members.map Prod.fst → insertMember key v members = members ++ [(key, v)]
  | [], _ => rfl
  | (k, w) :: rest, h => by
    rw [List.map_cons, List.mem_cons, not_or] at h
    rw [insertMember, if_neg (Ne.symm h.1), insertMember_of_not_mem v h.2, List.cons_append]

section

variable {rest next : Text} {c : Char} {m : Text × Json} {steps : Nat} {done : List (Text × Json)}

theorem readMembers_brace {last : Text} (h : readMember item t = .ok (m, rest))
    (hrest : skipSpace rest = '\x7d' :: last) :
    readMembers item (steps + 1) done t = .ok (insertMember m.1 m.2 done, last) := by
  simp only [readMembers, h, bind, Except.bind, hrest]
  rfl

theorem readMembers_comma {last : Text} (h : readMember item t = .ok (m, rest))
    (hrest : skipSpace rest = ',' :: last) (hlast : skipSpace last = c :: next) (hc : c ≠ '\x7d') :
    readMembers item (steps + 1) done t =
      readMembers item steps (insertMember m.1 m.2 done) (c :: next) := by
  simp only [readMembers, h, bind, Except.bind, hrest, hlast]
  split
  · rename_i hnil
    cases hnil
  · rename_i hcons
    cases hcons
    exact absurd rfl hc
  · rfl

theorem readObject_of_readMembers {members : List (Text × Json)} (ht : skipSpace t = c :: next)
    (hc : c ≠ '\x7d')
    (h : readMembers item (c :: next).length [] (c :: next) = .ok (members, rest)) :
    readObject item t = .ok (.obj members, rest) := by
  rw [readObject, ht]
  split
  · rename_i hnil
    cases hnil
  · rename_i hcons
    cases hcons
    exact absurd rfl hc
  · exact Attempt.bind_eq_ok_iff.2 ⟨_, h, rfl⟩

end

theorem not_mem_of_nodup {m : Text × Json} {before after : List (Text × Json)}
    (h : ((before ++ m :: after).map Prod.fst).Nodup) : m.1 ∉ before.map Prod.fst := by
  rw [List.map_append, List.nodup_append] at h
  exact fun hmem => h.2.2 _ hmem _ List.mem_cons_self rfl

theorem readMembers_behind (hlayout : layout.Blank) (level : Nat) (rest : Text)
    (text : Text × Json → Text) :
    ∀ (ms : List (Text × Json)) (m : Text × Json) (steps : Nat) (done : List (Text × Json)),
      ms.length < steps → ((done ++ m :: ms).map Prod.fst).Nodup →
      (∀ n ∈ m :: ms, ReadsBack (readMember item) (text n) n) →
      readMembers item steps done (text m ++ behind layout level '\x7d' rest (ms.map text)) =
        .ok (done ++ m :: ms, rest)
  | _, _, 0, _, hsteps, _, _ => absurd hsteps (Nat.not_lt_zero _)
  | [], m, steps + 1, done, _, hkeys, h => by
    have hm := (h m List.mem_cons_self).read_append _
      (ends_behind hlayout level (List.mem_cons_of_mem ']' List.mem_cons_self) rest [])
    rw [List.map_nil, readMembers_brace hm (skipSpace_behind_nil hlayout level rfl rest),
      insertMember_of_not_mem m.2 (not_mem_of_nodup hkeys)]
  -- no key comes twice, so each member is put behind those that are done
  | n :: ms, m, steps + 1, done, hsteps, hkeys, h => by
    obtain ⟨hm, hms⟩ := List.forall_mem_cons.1 h
    have hm := hm.read_append _ (ends_behind hlayout level
      (List.mem_cons_of_mem ']' List.mem_cons_self) rest ((n :: ms).map text))
    obtain ⟨c, next, hnext, hskip, _, hc⟩ :=
      (hms n List.mem_cons_self).exists_cons hlayout (level + 1)
        (behind layout level '\x7d' rest (ms.map text))
    have hassoc : done ++ m :: n :: ms = (done ++ [m]) ++ n :: ms := by
      rw [List.append_assoc, List.singleton_append]
    rw [readMembers_comma hm (skipSpace_cons rfl _) hskip hc, ← hnext,
      insertMember_of_not_mem m.2 (not_mem_of_nodup hkeys)]
    rw [hassoc] at hkeys ⊢
    exact readMembers_behind hlayout level rest text ms n steps (done ++ [m])
      (Nat.lt_of_succ_lt_succ hsteps) hkeys hms

theorem object_append (hlayout : layout.Blank) (level : Nat) {text : Text × Json → Text}
    {members : List (Text × Json)} (hkeys : (members.map Prod.fst).Nodup)
    (h : ∀ m ∈ members, ReadsBack (readMember item) (text m) m) (rest : Text) :
    ∃ inside, enclose layout level '\x7b' '\x7d' (members.map text) ++ rest = '\x7b' :: inside ∧
      readObject item inside = .ok (.obj members, rest) := by
  cases members with
  | nil => exact ⟨_, rfl, rfl⟩
  | cons m ms =>
    refine ⟨_, enclose_cons_append layout level '\x7b' '\x7d' rest (ms.map text) (text m), ?_⟩
    have hm := h m List.mem_cons_self
    obtain ⟨c, next, hnext, hskip, _, hc⟩ :=
      hm.exists_cons hlayout (level + 1) (behind layout level '\x7d' rest (ms.map text))
    have hsteps := hm.length_lt layout level '\x7d' rest (ms.map text)
    rw [List.length_map] at hsteps
    have hmembers := readMembers_behind hlayout level rest text ms m _ [] hsteps hkeys h
    rw [hnext] at hmembers
    exact readObject_of_readMembers hskip hc hmembers

/-! ## Documents -/

theorem ReadsBack.opening {opening : Char} {inner : Reader α}
    (hopening : opening = '[' ∨ opening = '\x7b')
    (hread : ∀ inside, read (opening :: inside) = inner inside)
    (h : ∀ rest, ∃ inside, t ++ rest = opening :: inside ∧ inner inside = .ok (a, rest)) :
    ReadsBack read t a := by
  obtain ⟨inside, ht, _⟩ := h []
  rw [List.append_nil] at ht
  refine ⟨⟨opening, inside, ht, ?_⟩, fun rest _ => ?_⟩
  · rcases hopening with rfl | rfl <;> decide
  · obtain ⟨inside, htext, hinside⟩ := h rest
    rw [htext, hread, hinside]

def startsScalar (c : Char) : Bool := !isSpace c && !(['[', ']', '\x7b', '\x7d'].contains c)

theorem startsScalar_of_isDigit {c : Char} (hc : c.isDigit = true) : startsScalar c = true := by
  have hne : ∀ d : Char, d.isDigit = false → c ≠ d := by
    rintro d hd rfl
    rw [hc] at hd
    cases hd
  simp [startsScalar, isSpace, hne ' ' rfl, hne '\t' rfl, hne '\n' rfl, hne '\r' rfl, hne '[' rfl,
    hne ']' rfl, hne '\x7b' rfl, hne '\x7d' rfl]

theorem readValue_of_scalar {c : Char} {front : Text} (hspace : isSpace c = false) (hlist : c ≠ '[')
    (hobject : c ≠ '\x7b') (depth : Nat) :
    readValue depth (c :: front) = readScalar (c :: front) := by
  cases depth <;>
  · rw [readValue, skipSpace_cons hspace]
    split
    · rename_i h
      cases h
      exact absurd rfl hlist
    · rename_i h
      cases h
      exact absurd rfl hobject
    · rfl

theorem ReadsBack.scalar {c : Char} {front : Text} {v : Json} (hc : startsScalar c = true)
    (h : ∀ rest, Ends rest → readScalar (c :: (front ++ rest)) = .ok (v, rest)) (depth : Nat) :
    ReadsBack (readValue depth) (c :: front) v := by
  simp only [startsScalar, Bool.and_eq_true, Bool.not_eq_true', List.contains_cons,
    List.contains_nil, Bool.or_false, Bool.or_eq_false_iff, beq_eq_false_iff_ne] at hc
  obtain ⟨hspace, hlist, hbracket, hobject, hbrace⟩ := hc
  refine ⟨⟨c, front, rfl, hspace, hbracket, hbrace⟩, fun rest hrest => ?_⟩
  rw [List.cons_append, readValue_of_scalar hspace hlist hobject]
  exact h rest hrest

theorem readWord_append (v : Json) (rest : Text) : ∀ letters : Text,
    readWord v letters (letters ++ rest) = .ok (v, rest)
  | [] => rfl
  | l :: letters => by
    rw [List.cons_append, readWord, if_pos rfl, readWord_append v rest letters]

theorem ReadsBack.word {c : Char} {letters : Text} {v : Json} (hc : startsScalar c = true)
    (h : ∀ t, readScalar (c :: t) = readWord v letters t) (depth : Nat) :
    ReadsBack (readValue depth) (c :: letters) v :=
  .scalar hc (fun rest _ => (h _).trans (readWord_append v rest letters)) depth

theorem ReadsBack.int {n : Int} (hlow : -(twoTo 63 : Int) ≤ n) (hhigh : n < twoTo 64) (depth : Nat) :
    ReadsBack (readValue depth) (Text.ofInt n) (.int n) := by
  have hread : ∀ rest, Ends rest → readScalar (Text.ofInt n ++ rest) = .ok (.int n, rest) :=
    fun rest hrest => readScalar_ofInt hlow hhigh hrest
  cases n with
  | ofNat n =>
    obtain ⟨c, ds, hds, hc⟩ := Text.ofNat_eq_cons n
    rw [Text.ofInt, hds] at hread ⊢
    exact .scalar (startsScalar_of_isDigit hc) hread depth
  | negSucc n => exact .scalar rfl hread depth

/-- **A document without doubles is read back from its text**, at any level and with whatever layout
it is written. -/
theorem readsBack_renderAt (hlayout : layout.Blank) {depth : Nat} {v : Json} (h : Within depth v) :
    v.hasDouble = false → ∀ level, ReadsBack (readValue depth) (renderAt layout level v) v := by
  -- the deeper a value stands, the higher its level and the fewer containers may be open in it
  induction h with
  | null depth => exact fun _ _ => .word rfl (fun _ => rfl) depth
  | bool depth b =>
    intro _ level
    cases b with
    | true => exact .word rfl (fun _ => rfl) depth
    | false => exact .word rfl (fun _ => rfl) depth
  | int depth hlow hhigh => exact fun _ _ => .int hlow hhigh depth
  | double depth x => exact fun hdouble => by cases hdouble
  | str depth t =>
    intro _ level
    change ReadsBack (readValue depth) ('"' :: (t.flatMap escapeChar ++ ['"'])) (.str t)
    refine .scalar rfl (fun rest _ => ?_) depth
    rw [List.append_assoc]
    exact Attempt.bind_eq_ok_iff.2 ⟨_, readString_escapes rest t [], rfl⟩
  | @arr depth items h ih =>
    intro hdouble level
    have hitems : ∀ v ∈ items, ReadsBack (readValue depth) (renderAt layout (level + 1) v) v :=
      fun v hv => ih v hv (hasDouble_of_mem_items hdouble hv) (level + 1)
    rw [renderAt, renderItems_eq]
    exact .opening (Or.inl rfl) (fun _ => rfl) (list_append hlayout level hitems)
  | @obj depth members hkeys h ih =>
    intro hdouble level
    have hmembers : ∀ m ∈ members,
        ReadsBack (readMember (readValue depth)) (renderMember layout (level + 1) m) m :=
      fun m hm => .member hlayout (level + 1)
        (ih m hm (hasDouble_of_mem_members hdouble hm) (level + 1))
        (fun blanks t hblanks => readValue_append hblanks depth t)
    rw [renderAt, renderMembers_eq]
    exact .opening (Or.inr rfl) (fun _ => rfl) (object_append hlayout level hkeys hmembers)

end Json

theorem Document.parse_renderAt {layout : Json.Layout} (hlayout : layout.Blank) (level : Nat)
    {v : Json} (h : v.Within Json.depthLimit) (hdouble : v.hasDouble = false) :
    Document.parse (Json.renderAt layout level v) = .ok v := by
  have hvalue := (Json.readsBack_renderAt hlayout h hdouble level).read_append [] nofun
  rw [List.append_nil] at hvalue
  have hread : Json.readDocument (Json.renderAt layout level v) = .ok v :=
    Attempt.bind_eq_ok_iff.2 ⟨_, hvalue, rfl⟩
  rw [Document.parse, Json.parse, hread]
  rfl

end ApiTypes
