import ApiTypes.Proofs.TypeExpr.Literal
import Mathlib.Data.List.Forall2
/-!
# The tokens of type expressions

A text is cut into tokens one character at a time.  The tokens of a type expression can be told
without its text, and cutting its text finds them (`TypeExpr.cuts_render`), whatever stands in its
string literals.
-/
namespace ApiTypes

inductive Token where
  | word (w : Text)
  /-- A string literal, by its value. -/
  | literal (value : Text)
  | brackets
  | bar
  | openParen
  | closeParen
  | openBrace
  | closeBrace
  | openAngle
  | closeAngle
  | colon
  | semicolon
  | comma
deriving DecidableEq

namespace Token

def isWordChar (c : Char) : Bool := c.isAlphanum || c = '_' || c = '$' || c = '.'

def ofMark (c : Char) : Option Token :=
  match c with
  | '|' => some .bar
  | '(' => some .openParen
  | ')' => some .closeParen
  | '\x7b' => some .openBrace
  | '\x7d' => some .closeBrace
  | '<' => some .openAngle
  | '>' => some .closeAngle
  | ':' => some .colon
  | ';' => some .semicolon
  | ',' => some .comma
  | _ => none

/-- What stands unfinished behind the last character. -/
inductive Pending where
  | nothing
  | word (w : Text)
  | bracket
  | literal (value : Text)
  | escape (value : Text)

def begin (c : Char) : Option (List Token × Pending) :=
  if c = ' ' then some ([], .nothing)
  else if c = '"' then some ([], .literal [])
  else if c = '[' then some ([], .bracket)
  else if isWordChar c then some ([], .word [c])
  else (ofMark c).map (fun t => ([t], .nothing))

def Pending.step : Pending → Char → Option (List Token × Pending)
  | .nothing, c => begin c
  | .word w, c =>
    if isWordChar c then some ([], .word (w ++ [c]))
    else (begin c).map (fun r => (.word w :: r.1, r.2))
  | .bracket, c => if c = ']' then some ([.brackets], .nothing) else none
  | .literal value, c =>
    if c = '"' then some ([.literal value], .nothing)
    else if c = '\\' then some ([], .escape value)
    else some ([], .literal (value ++ [c]))
  | .escape value, c => some ([], .literal (value ++ [c]))

def Pending.finish : Pending → Option (List Token)
  | .nothing => some []
  | .word w => some [.word w]
  | .bracket => none
  | .literal _ => none
  | .escape _ => none

def cutFrom : Pending → Text → Option (List Token)
  | p, [] => p.finish
  | p, c :: rest =>
    match p.step c with
    | none => none
    | some (ts, q) => (cutFrom q rest).map (ts ++ ·)

def cut (t : Text) : Option (List Token) := cutFrom .nothing t

/-! ## Texts that are cut in the same way wherever they stand -/

/-- No word goes on at the start of a text. -/
def Breaks (t : Text) : Prop := ∀ c ∈ t.head?, isWordChar c = false

/-- A text is cut into some tokens wherever it stands, if no word goes on behind it. -/
def Cuts (t : Text) (ts : List Token) : Prop :=
  ∀ rest, Breaks rest → cut (t ++ rest) = (cut rest).map (ts ++ ·)

/-- A text is cut into some tokens wherever it stands. -/
def CutsClosed (t : Text) (ts : List Token) : Prop :=
  ∀ rest, cut (t ++ rest) = (cut rest).map (ts ++ ·)

theorem CutsClosed.cuts {t : Text} {ts : List Token} (h : CutsClosed t ts) : Cuts t ts :=
  fun rest _ => h rest

theorem CutsClosed.append {t u : Text} {ts us : List Token} (ht : CutsClosed t ts)
    (hu : Cuts u us) : Cuts (t ++ u) (ts ++ us) := by
  intro rest hrest
  rw [List.append_assoc, ht, hu rest hrest, Option.map_map]
  simp only [Function.comp_def, List.append_assoc]

theorem Breaks.append {t : Text} (h : Breaks t) (hne : t ≠ []) (rest : Text) :
    Breaks (t ++ rest) := by
  cases t with
  | nil => exact absurd rfl hne
  | cons c u => exact h

/-- A text of marks: it is cut into some tokens wherever it stands, and ends a word. -/
structure Marks (t : Text) (ts : List Token) : Prop where
  cuts : CutsClosed t ts
  breaks : Breaks t
  nonempty : t ≠ []

theorem Cuts.append {t u : Text} {ts us : List Token} (ht : Cuts t ts) (hu : Marks u us) :
    CutsClosed (t ++ u) (ts ++ us) := by
  intro rest
  rw [List.append_assoc, ht _ (hu.breaks.append hu.nonempty rest), hu.cuts rest, Option.map_map]
  simp only [Function.comp_def, List.append_assoc]

theorem cuts_join {sep : Text} {t : Token} (hsep : Marks sep [t]) :
    ∀ {parts : List Text} {cutParts : List (List Token)}, List.Forall₂ Cuts parts cutParts →
      parts ≠ [] → Cuts (Text.join sep parts) ([t].intercalate cutParts)
  | [], _, _, hne => absurd rfl hne
  | [p], [ts], .cons h .nil, _ => by rwa [Text.join_singleton, List.intercalate_singleton]
  | p :: q :: rest, ts :: us :: cutRest, .cons h hrest, _ => by
    rw [Text.join_cons_cons, List.intercalate_cons_cons]
    exact (h.append hsep).append (cuts_join hsep hrest (List.cons_ne_nil q rest))

/-! ## Words, marks and literals -/

theorem cutFrom_cons {p q : Pending} {c : Char} {ts : List Token} (h : p.step c = some (ts, q))
    (rest : Text) : cutFrom p (c :: rest) = (cutFrom q rest).map (ts ++ ·) := by
  rw [cutFrom, h]

theorem cutFrom_cons_silent {p q : Pending} {c : Char} (h : p.step c = some ([], q))
    (rest : Text) : cutFrom p (c :: rest) = cutFrom q rest := by
  rw [cutFrom_cons h]
  simp only [List.nil_append, Option.map_id']

theorem cutFrom_word : ∀ (v w : Text) (rest : Text), (∀ c ∈ v, isWordChar c = true) →
    cutFrom (.word w) (v ++ rest) = cutFrom (.word (w ++ v)) rest
  | [], w, rest, _ => by rw [List.nil_append, List.append_nil]
  | c :: v, w, rest, h => by
    have hc : isWordChar c = true := h c List.mem_cons_self
    have hstep : (Pending.word w).step c = some ([], .word (w ++ [c])) := by
      rw [Pending.step, if_pos hc]
    rw [List.cons_append, cutFrom_cons_silent hstep,
      cutFrom_word v (w ++ [c]) rest (fun d hd => h d (List.mem_cons_of_mem c hd)),
      List.append_assoc, List.singleton_append]

theorem cutFrom_word_of_breaks (w : Text) : ∀ rest : Text, Breaks rest →
    cutFrom (.word w) rest = (cut rest).map (.word w :: ·)
  | [], _ => rfl
  | c :: rest, h => by
    have hc : isWordChar c = false := h c rfl
    rw [cut, cutFrom, cutFrom, Pending.step, Pending.step, if_neg (by simp [hc])]
    cases hbegin : begin c with
    | none => rfl
    | some r =>
      simp only [Option.map_some, Option.map_map]
      rfl

theorem cuts_word {w : Text} (hne : w ≠ []) (h : ∀ c ∈ w, isWordChar c = true) :
    Cuts w [.word w] := by
  intro rest hrest
  cases w with
  | nil => exact absurd rfl hne
  | cons c v =>
    have hc : isWordChar c = true := h c List.mem_cons_self
    -- a word character is none of those that `begin` asks for before it
    have hspace : c ≠ ' ' := fun e => by rw [e] at hc; exact absurd hc (by decide)
    have hquote : c ≠ '"' := fun e => by rw [e] at hc; exact absurd hc (by decide)
    have hbracket : c ≠ '[' := fun e => by rw [e] at hc; exact absurd hc (by decide)
    have hstep : Pending.nothing.step c = some ([], .word [c]) := by
      rw [Pending.step, begin, if_neg hspace, if_neg hquote, if_neg hbracket, if_pos hc]
    rw [cut, List.cons_append, cutFrom_cons_silent hstep,
      cutFrom_word v [c] rest (fun d hd => h d (List.mem_cons_of_mem c hd)),
      cutFrom_word_of_breaks _ rest hrest]
    rfl

theorem cutFrom_literal : ∀ (v value rest : Text),
    cutFrom (.literal value) (v.flatMap TypeExpr.escapeChar ++ '"' :: rest) =
      (cut rest).map (.literal (value ++ v) :: ·)
  | [], value, rest => by
    rw [List.flatMap_nil, List.nil_append, List.append_nil, cutFrom_cons (q := .nothing) rfl]
    rfl
  | c :: v, value, rest => by
    have ih := cutFrom_literal v (value ++ [c]) rest
    rw [List.append_assoc, List.singleton_append] at ih
    rw [List.flatMap_cons, List.append_assoc]
    -- a backslash stands in front of a backslash or a quote and of nothing else
    cases hc : TypeExpr.isEscaped c with
    | true =>
      have hback : (Pending.literal value).step '\\' = some ([], .escape value) := rfl
      have hchar : (Pending.escape value).step c = some ([], .literal (value ++ [c])) := rfl
      rw [TypeExpr.escapeChar_of_isEscaped hc, List.cons_append, List.cons_append, List.nil_append,
        cutFrom_cons_silent hback, cutFrom_cons_silent hchar, ih]
    | false =>
      obtain ⟨hback, hquote⟩ := TypeExpr.isEscaped_eq_false_iff.1 hc
      have hchar : (Pending.literal value).step c = some ([], .literal (value ++ [c])) := by
        rw [Pending.step, if_neg hquote, if_neg hback]
      rw [TypeExpr.escapeChar_of_not_isEscaped hc, List.cons_append, List.nil_append,
        cutFrom_cons_silent hchar, ih]

/-- **A string literal is one token**, whatever its value holds. -/
theorem cuts_renderLiteral (v : Text) : CutsClosed (TypeExpr.renderLiteral v) [.literal v] := by
  intro rest
  have hopen : Pending.nothing.step '"' = some ([], .literal []) := rfl
  have hbody := cutFrom_literal v [] rest
  rw [List.nil_append] at hbody
  rw [TypeExpr.renderLiteral, List.append_assoc, List.singleton_append, List.cons_append, cut,
    cutFrom_cons_silent hopen, hbody]
  rfl

def steps : Pending → Text → Option (List Token × Pending)
  | p, [] => some ([], p)
  | p, c :: rest =>
    match p.step c with
    | none => none
    | some (ts, q) => (steps q rest).map (fun r => (ts ++ r.1, r.2))

theorem cutFrom_append : ∀ {t : Text} {p q : Pending} {ts : List Token},
    steps p t = some (ts, q) → ∀ rest, cutFrom p (t ++ rest) = (cutFrom q rest).map (ts ++ ·)
  | [], p, q, ts, h, rest => by
    cases h
    simp only [List.nil_append, Option.map_id']
  | c :: t, p, q, ts, h, rest => by
    unfold steps at h
    split at h
    · cases h
    · rename_i us r hstep
      obtain ⟨⟨vs, q'⟩, hrest, hr⟩ := Option.map_eq_some_iff.1 h
      cases hr
      rw [List.cons_append, cutFrom_cons hstep, cutFrom_append hrest rest, Option.map_map]
      simp only [Function.comp_def, List.append_assoc]

theorem marks_of_steps {t : Text} {ts : List Token} (hbreak : t.head?.map isWordChar = some false)
    (h : steps .nothing t = some (ts, .nothing)) : Marks t ts := by
  cases t with
  | nil => cases hbreak
  | cons c u =>
    refine ⟨fun rest => cutFrom_append h rest, fun d hd => ?_, List.cons_ne_nil c u⟩
    cases hd
    exact Option.some.inj hbreak

end Token

/-! ## The tokens of a type expression -/

def isNameChar (c : Char) : Bool := c.isAlphanum || c = '_' || c = '$'

def startsWithDigit (t : Text) : Bool := (t.head?.map Char.isDigit).getD false

/-- Whether a text is a name: letters, digits, underscores and dollar signs, no digit first. -/
def isName (n : Text) : Bool := !n.isEmpty && n.all isNameChar && !startsWithDigit n

def isNumeral (n : Text) : Bool := startsWithDigit n && n.all (fun c => c.isDigit || c = '.')

/-- Whether a field name can be read back: it is quoted, or it consists of name characters. -/
def isReadableKey (key : Text) : Bool :=
  TypeExpr.needsQuotes key || (!key.isEmpty && key.all isNameChar)

namespace TypeExpr

def isOperand : TypeExpr → Bool
  | .union _ => false
  | _ => true

mutual

/-- Whether a type expression is one of the grammar: names and numbers are such, unions are not
empty, and a union stands in a group where it is a member or an item. -/
def isWellFormed : TypeExpr → Bool
  | .name n => isName n
  | .apply n args => isName n && n != "never" && !args.isEmpty && areWellFormed args
  | .literal _ => true
  | .number numeral => isNumeral numeral
  | .union members => !members.isEmpty && members.all isOperand && areWellFormed members
  | .array item => item.isOperand && item.isWellFormed
  | .group inner => inner.isWellFormed
  | .object fields => haveWellFormed fields

def areWellFormed : List TypeExpr → Bool
  | [] => true
  | t :: rest => t.isWellFormed && areWellFormed rest

def haveWellFormed : List (Text × TypeExpr) → Bool
  | [] => true
  | (key, t) :: rest => isReadableKey key && t.isWellFormed && haveWellFormed rest

end

def keyToken (key : Text) : Token := if needsQuotes key then .literal key else .word key

mutual

def tokens : TypeExpr → List Token
  | .name n => [.word n]
  | .apply n args =>
    .word n :: .openAngle :: (List.intercalate [.comma] (tokensOf args) ++ [.closeAngle])
  | .literal value => [.literal value]
  | .number numeral => [.word numeral]
  | .union members => List.intercalate [.bar] (tokensOf members)
  | .array item => item.tokens ++ [.brackets]
  | .group inner => .openParen :: (inner.tokens ++ [.closeParen])
  | .object fields =>
    .openBrace :: (List.intercalate [.semicolon] (tokensOfFields fields) ++ [.closeBrace])

def tokensOf : List TypeExpr → List (List Token)
  | [] => []
  | t :: rest => t.tokens :: tokensOf rest

def tokensOfFields : List (Text × TypeExpr) → List (List Token)
  | [] => []
  | (key, t) :: rest => (keyToken key :: .colon :: t.tokens) :: tokensOfFields rest

end

end TypeExpr

namespace Token

theorem isWordChar_of_isNameChar {c : Char} (h : isNameChar c = true) : isWordChar c = true := by
  rw [isWordChar, Bool.or_eq_true]
  exact Or.inl h

theorem cuts_name {n : Text} (h : isName n = true) : Cuts n [.word n] := by
  simp only [isName, Bool.and_eq_true, Bool.not_eq_true', List.isEmpty_eq_false_iff,
    List.all_eq_true] at h
  exact cuts_word h.1.1 (fun c hc => isWordChar_of_isNameChar (h.1.2 c hc))

theorem cuts_numeral {n : Text} (h : isNumeral n = true) : Cuts n [.word n] := by
  simp only [isNumeral, Bool.and_eq_true, List.all_eq_true, Bool.or_eq_true] at h
  refine cuts_word ?_ (fun c hc => ?_)
  · rintro rfl
    exact absurd h.1 (by decide)
  · rcases h.2 c hc with hd | hp
    · simp [isWordChar, Char.isAlphanum, hd]
    · rw [isWordChar, Bool.or_eq_true]
      exact Or.inr hp

theorem cuts_renderKey {key : Text} (h : isReadableKey key = true) :
    Cuts (TypeExpr.renderKey key) [TypeExpr.keyToken key] := by
  unfold TypeExpr.renderKey TypeExpr.keyToken
  by_cases hq : TypeExpr.needsQuotes key = true
  · rw [if_pos hq, if_pos hq]
    exact (cuts_renderLiteral key).cuts
  · rw [if_neg hq, if_neg hq]
    simp only [isReadableKey, hq, Bool.false_or, Bool.and_eq_true, Bool.not_eq_true',
      List.isEmpty_eq_false_iff, List.all_eq_true] at h
    exact cuts_word h.1 (fun c hc => isWordChar_of_isNameChar (h.2 c hc))

end Token

namespace TypeExpr

open Token

theorem renderList_ne_nil : ∀ {es : List TypeExpr}, es ≠ [] → renderList es ≠ []
  | [], h => absurd rfl h
  | _ :: _, _ => List.cons_ne_nil _ _

mutual

/-- **The text of a type expression is cut into its tokens.** -/
theorem cuts_render : ∀ e : TypeExpr, e.isWellFormed = true → Cuts e.render e.tokens
  | .name n, h => cuts_name h
  | .apply n args, h => by
    simp only [isWellFormed, Bool.and_eq_true, Bool.not_eq_true', List.isEmpty_eq_false_iff] at h
    have hopen : CutsClosed (n ++ "<") [.word n, .openAngle] :=
      (cuts_name h.1.1.1).append (marks_of_steps rfl rfl)
    have hargs : Cuts (Text.join ", " (renderList args)) ([.comma].intercalate (tokensOf args)) :=
      cuts_join (marks_of_steps rfl rfl) (cuts_renderList args h.2) (renderList_ne_nil h.1.2)
    exact ((hopen.append hargs).append (marks_of_steps rfl rfl)).cuts
  | .literal value, _ => (cuts_renderLiteral value).cuts
  | .number numeral, h => cuts_numeral h
  | .union members, h => by
    simp only [isWellFormed, Bool.and_eq_true, Bool.not_eq_true', List.isEmpty_eq_false_iff] at h
    exact cuts_join (marks_of_steps rfl rfl) (cuts_renderList members h.2)
      (renderList_ne_nil h.1.1)
  | .array item, h => by
    simp only [isWellFormed, Bool.and_eq_true] at h
    exact ((cuts_render item h.2).append (marks_of_steps rfl rfl)).cuts
  | .group inner, h => by
    have hopen : Marks "(" [.openParen] := marks_of_steps rfl rfl
    exact ((hopen.cuts.append (cuts_render inner h)).append (marks_of_steps rfl rfl)).cuts
  | .object [], _ => (marks_of_steps rfl rfl).cuts.cuts
  | .object (f :: fields), h => by
    have hopen : Marks "\x7b " [.openBrace] := marks_of_steps rfl rfl
    have hfields : Cuts (Text.join "; " (renderFields (f :: fields)))
        ([.semicolon].intercalate (tokensOfFields (f :: fields))) :=
      cuts_join (marks_of_steps rfl rfl) (cuts_renderFields (f :: fields) h) (by simp [renderFields])
    exact ((hopen.cuts.append hfields).append (marks_of_steps rfl rfl)).cuts

theorem cuts_renderList : ∀ es : List TypeExpr, areWellFormed es = true →
    List.Forall₂ Cuts (renderList es) (tokensOf es)
  | [], _ => .nil
  | e :: rest, h => by
    simp only [areWellFormed, Bool.and_eq_true] at h
    exact .cons (cuts_render e h.1) (cuts_renderList rest h.2)

theorem cuts_renderFields : ∀ fields : List (Text × TypeExpr), haveWellFormed fields = true →
    List.Forall₂ Cuts (renderFields fields) (tokensOfFields fields)
  | [], _ => .nil
  | (key, e) :: rest, h => by
    simp only [haveWellFormed, Bool.and_eq_true] at h
    have hkey : CutsClosed (renderKey key ++ ": ") [keyToken key, .colon] :=
      (cuts_renderKey h.1.1).append (marks_of_steps rfl rfl)
    exact .cons (hkey.append (cuts_render e h.1.2)) (cuts_renderFields rest h.2)

end

theorem cut_render {e : TypeExpr} (h : e.isWellFormed = true) : cut e.render = some e.tokens := by
  have hcut : cut (e.render ++ []) = (cut []).map (e.tokens ++ ·) :=
    cuts_render e h [] (fun _ hc => by cases hc)
  rw [List.append_nil] at hcut
  rw [hcut, cut, cutFrom, Pending.finish, Option.map_some, List.append_nil]

end TypeExpr
end ApiTypes
