import ApiTypes.Proofs.ErrorEnum.Words
import ApiTypes.Proofs.Schema.Keys
import ApiTypes.Proofs.Text.Numeral
/-!
# The members of the enumeration

The characters of a constant name are capitals, digits and underscores of ASCII, so the line of a
member ends where it is written to end and is told apart into name and code in one way, and the table
is read back from the text (`enumeration_read_back`).  The name may be empty, and it may start with a
digit; whether it does is settled by the first significant word of the message (`accepts_members_iff`).
-/
namespace ApiTypes
namespace ErrorEnum

open TypeExpr (isLineBreak)

/-- A line of a name, an equals sign between spaces, a numeral and a comma. -/
structure IsMember (line name numeral : Text) : Prop where
  line_eq : line = name ++ " = " ++ numeral ++ ","
  name : ∀ c ∈ name, isConstantChar c = true
  numeral : (Text.toInt? numeral).isSome = true

def readMember (line : Text) : Option (Text × Int) :=
  match line.dropWhile isConstantChar with
  | ' ' :: '=' :: ' ' :: rest =>
    if rest.getLast? = some ',' then
      (Text.toInt? rest.dropLast).map (fun code => (line.takeWhile isConstantChar, code))
    else none
  | _ => none

/-- The lines of an enumeration between the first one and the last one. -/
def memberLines (t : Text) : List Text := (Text.pieces isLineBreak t).tail.dropLast

def read (t : Text) : Option (List (Text × Int)) :=
  let lines := Text.pieces isLineBreak t
  if lines.head? = some "export enum TornApiError \x7b".toList ∧
      lines.getLast? = some "\x7d".toList then
    (memberLines t).mapM readMember
  else none

/-! ## The line of a member -/

theorem isMember_memberLine (e : ErrorEntry) :
    IsMember (memberLine e) (constantName e.message) (Text.ofInt e.code) where
  line_eq := rfl
  name := isConstantChar_of_mem_constantName
  numeral := by rw [Text.toInt?_ofInt]; rfl

section

variable {line name numeral : Text}

theorem IsMember.takeWhile_eq (h : IsMember line name numeral) :
    line.takeWhile isConstantChar = name := by
  rw [h.line_eq, List.append_assoc, List.append_assoc, List.takeWhile_append_of_pos h.name]
  exact List.append_nil name

theorem IsMember.dropWhile_eq (h : IsMember line name numeral) :
    line.dropWhile isConstantChar = ' ' :: '=' :: ' ' :: (numeral ++ ",") := by
  rw [h.line_eq, List.append_assoc, List.append_assoc, List.dropWhile_append_of_pos h.name]
  rfl

/-- **A line is told apart into a name and a numeral in one way.** -/
theorem IsMember.unique {name' numeral' : Text} (h : IsMember line name numeral)
    (h' : IsMember line name' numeral') : name = name' ∧ numeral = numeral' := by
  have hrest : (' ' :: '=' :: ' ' :: (numeral ++ ",") : Text) =
      ' ' :: '=' :: ' ' :: (numeral' ++ ",") :=
    h.dropWhile_eq.symm.trans h'.dropWhile_eq
  refine ⟨h.takeWhile_eq.symm.trans h'.takeWhile_eq, ?_⟩
  simpa using hrest

theorem IsMember.readMember_eq (h : IsMember line name numeral) :
    readMember line = (Text.toInt? numeral).map (fun code => (name, code)) := by
  have hlast : (numeral ++ ",".toList).getLast? = some ',' := List.getLast?_concat
  have hfront : (numeral ++ ",".toList).dropLast = numeral := List.dropLast_concat
  rw [readMember, h.dropWhile_eq, h.takeWhile_eq]
  simp only [hlast, hfront, if_true]

/-- **The reader takes the lines of members and no others.** -/
theorem readMember_eq_some_iff {code : Int} : readMember line = some (name, code) ↔
    ∃ numeral, IsMember line name numeral ∧ Text.toInt? numeral = some code := by
  constructor
  · intro h
    unfold readMember at h
    split at h
    · rename_i rest hrest
      split at h
      · rename_i hlast
        obtain ⟨n, hn, hpair⟩ := Option.map_eq_some_iff.1 h
        obtain ⟨rfl, rfl⟩ := Prod.mk.inj hpair
        have hcomma : rest.dropLast ++ [','] = rest :=
          List.dropLast_append_getLast? _ hlast
        refine ⟨rest.dropLast, ⟨?_, List.all_eq_true.1 List.all_takeWhile, by rw [hn]; rfl⟩, hn⟩
        rw [List.append_assoc, List.append_assoc]
        change line = line.takeWhile isConstantChar ++ ' ' :: '=' :: ' ' :: (rest.dropLast ++ [','])
        rw [hcomma, ← hrest, List.takeWhile_append_dropWhile]
      · cases h
    · cases h
  · rintro ⟨numeral, h, hcode⟩
    rw [h.readMember_eq, hcode]
    rfl

theorem IsMember.isLineBreak_eq (h : IsMember line name numeral) :
    ∀ c ∈ line, isLineBreak c = false := by
  have hascii : ∀ {c : Char}, isConstantChar c = true → isLineBreak c = false := fun hc =>
    forall_ascii (P := fun c => isConstantChar c = true → isLineBreak c = false) (by decide)
      (toNat_lt_of_isConstantChar hc) hc
  obtain ⟨n, hn⟩ := Option.isSome_iff_exists.1 h.numeral
  rw [h.line_eq]
  intro c hc
  simp only [List.mem_append] at hc
  rcases hc with ((hc | hc) | hc) | hc
  · exact hascii (h.name c hc)
  · exact Text.forall_not_of_any (by decide) c hc
  · rcases Text.of_toInt? hn c hc with rfl | hdigit
    · rfl
    · exact hascii (by rw [isConstantChar, hdigit, Bool.or_true, Bool.true_or])
  · rw [List.mem_singleton.1 hc]
    rfl

end

/-! ## The lines of the enumeration -/

/-- **Every row of the table is one line**, between the first one and the last one. -/
theorem pieces_render (entries : List ErrorEntry) :
    Text.pieces isLineBreak (render entries) =
      "export enum TornApiError \x7b".toList :: entries.map memberLine ++ ["\x7d".toList] := by
  refine Text.pieces_join_of_forall_not rfl (List.cons_ne_nil _ _) ?_
  intro line hline
  rcases List.mem_append.1 hline with hline | hline
  · rcases List.mem_cons.1 hline with rfl | hline
    · exact Text.forall_not_of_any (by decide)
    · obtain ⟨e, -, rfl⟩ := List.mem_map.1 hline
      exact (isMember_memberLine e).isLineBreak_eq
  · rw [List.mem_singleton.1 hline]
    exact Text.forall_not_of_any (by decide)

theorem memberLines_render (entries : List ErrorEntry) :
    memberLines (render entries) = entries.map memberLine := by
  rw [memberLines, pieces_render, List.cons_append, List.tail_cons, List.dropLast_concat]

theorem readMember_memberLine (e : ErrorEntry) :
    readMember (memberLine e) = some (constantName e.message, e.code) := by
  rw [(isMember_memberLine e).readMember_eq, Text.toInt?_ofInt]
  rfl

theorem mapM_readMember_memberLine : ∀ entries : List ErrorEntry,
    (entries.map memberLine).mapM readMember =
      some (entries.map (fun e => (constantName e.message, e.code)))
  | [] => rfl
  | e :: rest => by
    rw [List.map_cons, List.mapM_cons, readMember_memberLine, mapM_readMember_memberLine rest]
    rfl

/-- **The enumeration is read back.**  Its text has one line for each row of the table, in the order of
the table and whatever line breaks the messages hold, between its first line and its closing brace.
Each of these lines is a name of capitals, digits and underscores, an equals sign between spaces, a
decimal numeral and a comma, in one way only, and reading them gives the constant name and the code of
each row.  A name is put together from the words of its message, each cleaned by itself: of five at
most, none of them empty or a stop word. -/
theorem enumeration_read_back (entries : List ErrorEntry) :
    Text.pieces isLineBreak (render entries) =
      "export enum TornApiError \x7b".toList :: entries.map memberLine ++ ["\x7d".toList] ∧
    (∀ (e : ErrorEntry) (name numeral : Text), IsMember (memberLine e) name numeral ↔
      name = constantName e.message ∧ numeral = Text.ofInt e.code) ∧
    (∀ (line name : Text) (code : Int), readMember line = some (name, code) ↔
      ∃ numeral, IsMember line name numeral ∧ Text.toInt? numeral = some code) ∧
    read (render entries) = some (entries.map (fun e => (constantName e.message, e.code))) ∧
    ∀ m : Text, ∃ ws : List Text, constantName m = Text.join ['_'] ws ∧ ws.length ≤ 5 ∧
      ws.Sublist ((Text.words m).map clean) ∧ ∀ w ∈ ws, w ≠ [] ∧ w ∉ stopWords := by
  refine ⟨pieces_render entries, fun e name numeral => ⟨fun h => ?_, ?_⟩,
    fun _ _ _ => readMember_eq_some_iff, ?_, fun m => ⟨_, rfl, List.length_take_le _ _, ?_, ?_⟩⟩
  · exact h.unique (isMember_memberLine e)
  · rintro ⟨rfl, rfl⟩
    exact isMember_memberLine e
  · have hends : (Text.pieces isLineBreak (render entries)).head? =
          some "export enum TornApiError \x7b".toList ∧
        (Text.pieces isLineBreak (render entries)).getLast? = some "\x7d".toList := by
      rw [pieces_render]
      exact ⟨rfl, List.getLast?_concat⟩
    rw [read, if_pos hends, memberLines_render, mapM_readMember_memberLine]
  · rw [significantWords_eq]
    exact (List.take_sublist _ _).trans (List.filter_sublist.map clean)
  · intro w hw
    exact ⟨(of_mem_take hw).1, (of_mem_take hw).2.1⟩

/-- A table with messages that hold line breaks and what the lines of an enumeration are made of, and
one that nothing significant is in. -/
def brokenTable : List ErrorEntry :=
  [⟨-9223372036854775808, "no\nline = 3,\u2028\x7d", []⟩, ⟨5, "Please try again", []⟩]

theorem enumeration_read_back_broken :
    render brokenTable =
      "export enum TornApiError \x7b\nNO_LINE_3 = -9223372036854775808,\n = 5,\n\x7d" ∧
    read (render brokenTable) =
      some [("NO_LINE_3".toList, -9223372036854775808), ([], 5)] := by
  obtain ⟨-, -, -, hread, -⟩ := enumeration_read_back brokenTable
  have hnames : brokenTable.map (fun e => (constantName e.message, e.code)) =
      [("NO_LINE_3".toList, -9223372036854775808), ([], 5)] := by decide +kernel
  rw [hnames] at hread
  exact ⟨by decide +kernel, hread⟩

/-! ## Names that a member can have -/

theorem accepts_iff (R : IdentifierRule) {name : Text} (h : ∀ c ∈ name, isConstantChar c = true) :
    R.accepts name = true ↔ name ≠ [] ∧ startsWithDigit name = false := by
  have hascii : name.isAscii = true :=
    List.all_eq_true.2 (fun c hc => decide_eq_true (toNat_lt_of_isConstantChar (h c hc)))
  have hchars : name.all isNameChar = true := by
    refine List.all_eq_true.2 (fun c hc => ?_)
    exact forall_ascii (P := fun c => isConstantChar c = true → isNameChar c = true) (by decide)
      (toNat_lt_of_isConstantChar (h c hc)) (h c hc)
  rw [IdentifierRule.accepts_eq_isName hascii, isName, hchars, Bool.and_true, Bool.and_eq_true,
    Bool.not_eq_true', Bool.not_eq_true', List.isEmpty_eq_false_iff]

/-- The first word of a message that goes into its name. -/
def firstWord? (m : Text) : Option Text := ((Text.words m).filter isSignificant).head?

theorem clean_ne_nil_of_isSignificant {w : Text} (h : isSignificant w = true) : clean w ≠ [] := by
  rw [isSignificant, Bool.and_eq_true, Bool.not_eq_true', List.isEmpty_eq_false_iff] at h
  exact h.1

theorem startsWithDigit_append {a b : Text} (h : a ≠ []) :
    startsWithDigit (a ++ b) = startsWithDigit a := by
  obtain ⟨c, rest, rfl⟩ := List.exists_cons_of_ne_nil h
  rfl

theorem constantName_of_firstWord? {m w : Text} (h : firstWord? m = some w) :
    clean w ≠ [] ∧ ∃ t, constantName m = clean w ++ t := by
  have hsignificant : isSignificant w = true :=
    (List.mem_filter.1 (List.mem_of_mem_head? h)).2
  refine ⟨clean_ne_nil_of_isSignificant hsignificant, ?_⟩
  obtain ⟨rest, hrest⟩ := List.head?_eq_some_iff.1 h
  rw [constantName, significantWords_eq, hrest, List.map_cons, wordLimit, List.take_succ_cons]
  cases (rest.map clean).take 4 with
  | nil => exact ⟨[], by rw [Text.join_singleton, List.append_nil]⟩
  | cons v vs => exact ⟨_, by rw [Text.join_cons_cons, List.append_assoc]⟩

theorem constantName_of_firstWord?_eq_none {m : Text} (h : firstWord? m = none) :
    constantName m = [] := by
  rw [constantName, significantWords_eq, List.head?_eq_none_iff.1 h]
  rfl

theorem constantName_eq_nil_iff {m : Text} :
    constantName m = [] ↔ ∀ w ∈ Text.words m, clean w = [] ∨ clean w ∈ stopWords := by
  have hnone : firstWord? m = none ↔ ∀ w ∈ Text.words m, clean w = [] ∨ clean w ∈ stopWords := by
    rw [firstWord?, List.head?_eq_none_iff, List.filter_eq_nil_iff]
    refine forall₂_congr (fun w _ => ?_)
    simp only [isSignificant, List.contains_eq_mem, Bool.and_eq_true, Bool.not_eq_true',
      List.isEmpty_eq_false_iff, decide_eq_false_iff_not]
    tauto
  rw [← hnone]
  refine ⟨fun hnil => ?_, constantName_of_firstWord?_eq_none⟩
  cases hfirst : firstWord? m with
  | none => rfl
  | some w =>
    obtain ⟨hne, t, ht⟩ := constantName_of_firstWord? hfirst
    rw [hnil] at ht
    exact absurd (List.append_eq_nil_iff.1 ht.symm).1 hne

/-- **A name is an identifier just if a word goes into it and the first one has no digit in front.** -/
theorem accepts_constantName_iff (R : IdentifierRule) (m : Text) :
    R.accepts (constantName m) = true ↔
      ∃ w ∈ firstWord? m, startsWithDigit (clean w) = false := by
  rw [accepts_iff R isConstantChar_of_mem_constantName]
  cases hfirst : firstWord? m with
  | none => simp [constantName_of_firstWord?_eq_none hfirst]
  | some w =>
    obtain ⟨hne, t, ht⟩ := constantName_of_firstWord? hfirst
    have hname : clean w ++ t ≠ [] := fun h => hne (List.append_eq_nil_iff.1 h).1
    simp [ht, startsWithDigit_append hne, hname]

theorem exists_clean_ne_nil {m : Text} (h : ∃ c ∈ m, c.isAlpha = true) :
    ∃ w ∈ Text.words m, clean w ≠ [] := by
  obtain ⟨c, hc, halpha⟩ := h
  have hascii := toNat_lt_of_isAlpha halpha
  have hblank : isBlank c = false :=
    forall_ascii (P := fun c => c.isAlpha = true → isBlank c = false) (by decide) hascii halpha
  have hleft : cleanChar c = [c.toUpper] :=
    forall_ascii (P := fun c => c.isAlpha = true → cleanChar c = [c.toUpper]) (by decide +kernel)
      hascii halpha
  have hflat : c ∈ (Text.words m).flatten := by
    rw [Text.words, Text.flatten_tokens, List.mem_filter, hblank]
    exact ⟨hc, rfl⟩
  obtain ⟨w, hw, hcw⟩ := List.mem_flatten.1 hflat
  refine ⟨w, hw, List.ne_nil_of_mem (a := c.toUpper) ?_⟩
  rw [clean_eq_flatMap]
  exact List.mem_flatMap.2 ⟨c, hcw, by rw [hleft]; exact List.mem_cons_self⟩

/-- **When the members of an enumeration have names.**  Every line of the enumeration starts with an
identifier, that is with a name that is not empty and has no digit in front, just if of every message
some word goes into the name and what is left of the first one has no digit in front.  A name is empty
just if nothing is left of any word but stop words; something is left of a message that has a letter of
ASCII, but that may be stop words alone. -/
theorem accepts_members_iff (R : IdentifierRule) (entries : List ErrorEntry) :
    ((∀ line ∈ memberLines (render entries),
        ∃ name numeral, IsMember line name numeral ∧ R.accepts name = true) ↔
      ∀ e ∈ entries, ∃ w ∈ firstWord? e.message, startsWithDigit (clean w) = false) ∧
    (∀ m : Text, R.accepts (constantName m) = true ↔
      constantName m ≠ [] ∧ startsWithDigit (constantName m) = false) ∧
    (∀ m : Text, constantName m = [] ↔
      ∀ w ∈ Text.words m, clean w = [] ∨ clean w ∈ stopWords) ∧
    ∀ m : Text, (∃ c ∈ m, c.isAlpha = true) → ∃ w ∈ Text.words m, clean w ≠ [] := by
  refine ⟨?_, fun m => accepts_iff R isConstantChar_of_mem_constantName,
    fun _ => constantName_eq_nil_iff, fun _ => exists_clean_ne_nil⟩
  rw [memberLines_render, List.forall_mem_map]
  refine forall₂_congr (fun e _ => ?_)
  rw [← accepts_constantName_iff R]
  constructor
  · rintro ⟨name, numeral, hmember, haccepts⟩
    rwa [(isMember_memberLine e).unique hmember |>.1]
  · exact fun haccepts => ⟨_, _, isMember_memberLine e, haccepts⟩

/-- **A message with words need not give a name**: `Please try again` is made of stop words. -/
theorem not_accepts_members :
    ¬ ∀ entries : List ErrorEntry, (∀ e ∈ entries, ∃ c ∈ e.message, c.isAlpha = true) →
      ∀ line ∈ memberLines (render entries), ∃ name numeral, IsMember line name numeral ∧
        name ≠ [] ∧ startsWithDigit name = false := by
  intro h
  have hline := h [⟨5, "Please try again", []⟩] (fun e he => ?_) (memberLine ⟨5, "Please try again", []⟩)
    (by rw [memberLines_render]; exact List.mem_cons_self)
  · obtain ⟨name, numeral, hmember, hne, -⟩ := hline
    have hname := (hmember.unique (isMember_memberLine _)).1
    have hempty : constantName "Please try again" = [] := by decide +kernel
    exact hne (hname.trans hempty)
  · rw [List.mem_singleton.1 he]
    exact ⟨'P', by decide, rfl⟩

def numberedTable : List ErrorEntry :=
  [⟨0, "This is a 2nd try", []⟩, ⟨1, "'k9' unit", []⟩, ⟨2, "the 2nd key", []⟩]

theorem accepts_members_iff_numbered :
    (∀ line ∈ memberLines (render (numberedTable.take 2)), ∃ name numeral,
      IsMember line name numeral ∧ IdentifierRule.accepts .ascii name = true) ∧
    ¬ ∀ line ∈ memberLines (render numberedTable), ∃ name numeral,
      IsMember line name numeral ∧ IdentifierRule.accepts .ascii name = true := by
  refine ⟨(accepts_members_iff .ascii _).1.2 (by decide +kernel), fun h => ?_⟩
  have hfirst := (accepts_members_iff .ascii _).1.1 h ⟨2, "the 2nd key", []⟩ (by decide)
  exact absurd hfirst (by decide +kernel)

end ErrorEnum
end ApiTypes
