import ApiTypes.Proofs.TypeExpr.Meaning
import ApiTypes.Proofs.TypeExpr.Token
/-!
# Reading type expressions

A reader that takes one token after the other and remembers what is open: unions bind weakest,
brackets behind a type bind stronger, parentheses group.  It reads every type expression of the
grammar as what the expression means (`read_of_cut`), so no text stands for two meanings
(`Stands.unique`).
-/
namespace ApiTypes
namespace Reader

/-- What a type stands in. -/
inductive Opening where
  | whole
  | group
  | arguments (n : Text) (before : List Meaning)
  | field (before : List (Text × Meaning)) (key : Text)

/-- Something open, with the members of the union in it that have a bar behind them. -/
structure Frame where
  opening : Opening
  members : List Meaning

/-- What the next token has to fit to. -/
inductive Phase where
  | operand
  | after (m : Meaning)
  | key (before : List (Text × Meaning))
  | colon (before : List (Text × Meaning)) (key : Text)

/-- What is open, the innermost first, and what is expected there. -/
structure State where
  frames : List Frame
  phase : Phase

def word (w : Text) : Option Meaning :=
  if isName w then some (.ofName w) else if isNumeral w then some (.number w) else none

def start (frames : List Frame) : Token → Option State
  | .word w => (word w).map (fun m => ⟨frames, .after m⟩)
  | .literal value => some ⟨frames, .after (.literal value)⟩
  | .openParen => some ⟨⟨.group, []⟩ :: frames, .operand⟩
  | .openBrace => some ⟨frames, .key []⟩
  | _ => none

def Opening.close (frames : List Frame) (m : Meaning) : Opening → Token → Option State
  | .group, .closeParen => some ⟨frames, .after m⟩
  | .arguments n before, .comma => some ⟨⟨.arguments n (before ++ [m]), []⟩ :: frames, .operand⟩
  | .arguments n before, .closeAngle => some ⟨frames, .after (.apply n (before ++ [m]))⟩
  | .field before key, .semicolon => some ⟨frames, .key (before ++ [(key, m)])⟩
  | .field before key, .closeBrace => some ⟨frames, .after (.object (before ++ [(key, m)]))⟩
  | _, _ => none

def follow (m : Meaning) : List Frame → Token → Option State
  | frames, .brackets => some ⟨frames, .after (.array m)⟩
  | frames, .openAngle =>
    match m with
    | .name n => some ⟨⟨.arguments n [], []⟩ :: frames, .operand⟩
    | _ => none
  | f :: frames, .bar => some ⟨⟨f.opening, f.members ++ [m]⟩ :: frames, .operand⟩
  | f :: frames, t => f.opening.close frames (.anyOf (f.members ++ [m])) t
  | [], _ => none

def step (s : State) (t : Token) : Option State :=
  match s.phase, t with
  | .operand, t => start s.frames t
  | .after m, t => follow m s.frames t
  | .key before, .word w => if isName w then some ⟨s.frames, .colon before w⟩ else none
  | .key before, .literal value => some ⟨s.frames, .colon before value⟩
  | .key [], .closeBrace => some ⟨s.frames, .after (.object [])⟩
  | .colon before key, .colon => some ⟨⟨.field before key, []⟩ :: s.frames, .operand⟩
  | _, _ => none

def run (s : State) (ts : List Token) : Option State := ts.foldlM step s

def State.result : State → Option Meaning
  | ⟨[⟨.whole, before⟩], .after m⟩ => some (.anyOf (before ++ [m]))
  | _ => none

def read (t : Text) : Option Meaning := do
  let ts ← Token.cut t
  let s ← run ⟨[⟨.whole, []⟩], .operand⟩ ts
  s.result

theorem run_append (s : State) (ts us : List Token) :
    run s (ts ++ us) = (run s ts).bind (fun r => run r us) :=
  List.foldlM_append

theorem run_cons {s r : State} {t : Token} (h : step s t = some r) (ts : List Token) :
    run s (t :: ts) = run r ts := by
  rw [run, List.foldlM_cons, h]
  rfl

theorem run_append_of_run {s r : State} {ts : List Token} (h : run s ts = some r)
    (us : List Token) : run s (ts ++ us) = run r us := by
  rw [run_append, h, Option.bind_some]

/-! ## Tokens that read as a union -/

/-- Wherever a type is expected, some tokens are read as the members of a union. -/
def Reads (ts : List Token) (ms : List Meaning) : Prop :=
  ∃ init last, ms = init ++ [last] ∧ ∀ o before frames,
    run ⟨⟨o, before⟩ :: frames, .operand⟩ ts = some ⟨⟨o, before ++ init⟩ :: frames, .after last⟩

theorem reads_of_start {t : Token} {m : Meaning}
    (h : ∀ frames, start frames t = some ⟨frames, .after m⟩) : Reads [t] [m] := by
  refine ⟨[], m, rfl, fun o before frames => ?_⟩
  have hstep : step ⟨⟨o, before⟩ :: frames, .operand⟩ t =
      some ⟨⟨o, before⟩ :: frames, .after m⟩ := h (⟨o, before⟩ :: frames)
  rw [run_cons hstep, List.append_nil]
  rfl

theorem start_name {n : Text} (h : isName n = true) (frames : List Frame) :
    start frames (.word n) = some ⟨frames, .after (.ofName n)⟩ := by
  rw [start, word, if_pos h, Option.map_some]

theorem reads_name {n : Text} (h : isName n = true) : Reads [.word n] [.ofName n] :=
  reads_of_start (start_name h)

theorem reads_number {n : Text} (h : isNumeral n = true) : Reads [.word n] [.number n] := by
  -- a name has no digit in front, so the reader does not take the number for one
  have hdigit : startsWithDigit n = true := (Bool.and_eq_true _ _ ▸ h).1
  have hname : ¬ isName n = true := by simp [isName, hdigit]
  exact reads_of_start (fun frames => by
    rw [start, word, if_neg hname, if_pos h, Option.map_some])

theorem Reads.bar {ts us : List Token} {ms ns : List Meaning} (ht : Reads ts ms)
    (hu : Reads us ns) : Reads (ts ++ .bar :: us) (ms ++ ns) := by
  obtain ⟨init, last, rfl, ht⟩ := ht
  obtain ⟨init', last', rfl, hu⟩ := hu
  refine ⟨init ++ [last] ++ init', last', by simp only [List.append_assoc], ?_⟩
  intro o before frames
  rw [run_append_of_run (ht o before frames), run_cons rfl, hu]
  simp only [List.append_assoc]

theorem Reads.brackets {ts : List Token} {m : Meaning} (ht : Reads ts [m]) :
    Reads (ts ++ [.brackets]) [.array m] := by
  obtain ⟨init, last, hm, ht⟩ := ht
  -- of a single member nothing stands in front of a bar
  obtain ⟨rfl, rfl⟩ : init = [] ∧ last = m := by
    cases init with
    | nil => exact ⟨rfl, by simpa using hm.symm⟩
    | cons a init => exact absurd (congrArg List.length hm) (by simp)
  refine ⟨[], .array last, rfl, fun o before frames => ?_⟩
  rw [run_append_of_run (ht o before frames), run_cons rfl]
  rfl

theorem Reads.close {ts : List Token} {ms : List Meaning} {o : Opening} {frames : List Frame}
    {t : Token} {r : State} (ht : Reads ts ms) (h : o.close frames (.anyOf ms) t = some r)
    (rest : List Token) : run ⟨⟨o, []⟩ :: frames, .operand⟩ (ts ++ t :: rest) = run r rest := by
  obtain ⟨init, last, rfl, ht⟩ := ht
  have hstep : step ⟨⟨o, init⟩ :: frames, .after last⟩ t = some r := by
    rw [← h]
    -- the tokens that do not end a type close nothing
    cases t with
    | brackets => cases o <;> cases h
    | bar => cases o <;> cases h
    | openAngle => cases o <;> cases h
    | _ => rfl
  rw [run_append_of_run (ht o [] frames), List.nil_append, run_cons hstep]

theorem Reads.group {ts : List Token} {ms : List Meaning} (ht : Reads ts ms) :
    Reads (.openParen :: (ts ++ [.closeParen])) [.anyOf ms] := by
  refine ⟨[], .anyOf ms, rfl, fun o before frames => ?_⟩
  rw [run_cons rfl, ht.close rfl, List.append_nil]
  rfl

theorem step_keyToken {key : Text} (h : isReadableKey key = true) (frames : List Frame)
    (before : List (Text × Meaning)) :
    step ⟨frames, .key before⟩ (TypeExpr.keyToken key) = some ⟨frames, .colon before key⟩ := by
  unfold TypeExpr.keyToken
  by_cases hq : TypeExpr.needsQuotes key = true
  · rw [if_pos hq]
    rfl
  · have hdigit : startsWithDigit key = false := by
      rw [TypeExpr.needsQuotes, Bool.or_eq_true, not_or] at hq
      exact Bool.eq_false_iff.2 hq.1
    have hname : isName key = true := by
      rw [isReadableKey, Bool.eq_false_iff.2 hq, Bool.false_or] at h
      rw [isName, h, hdigit]
      rfl
    rw [if_neg hq]
    exact if_pos hname

end Reader

namespace TypeExpr

open Reader

/-- The meanings that a type expression adds to a union: its members, if it is a union itself. -/
def parts : TypeExpr → List Meaning
  | .union members => meanings members
  | e => [e.meaning]

theorem parts_of_isOperand {e : TypeExpr} (h : e.isOperand = true) : e.parts = [e.meaning] := by
  cases e with
  | union members => cases h
  | _ => rfl

theorem anyOf_parts (e : TypeExpr) : Meaning.anyOf e.parts = e.meaning := by
  cases e with
  | union members => rfl
  | _ => exact Meaning.anyOf_singleton _

theorem intercalate_tokensOf (t : Token) (e f : TypeExpr) (rest : List TypeExpr) :
    [t].intercalate (tokensOf (e :: f :: rest)) =
      e.tokens ++ t :: [t].intercalate (tokensOf (f :: rest)) := by
  rw [tokensOf, tokensOf, List.intercalate_cons_cons, List.append_assoc, List.singleton_append]

theorem intercalate_tokensOfFields (t : Token) (key : Text) (e : TypeExpr) (f : Text × TypeExpr)
    (rest : List (Text × TypeExpr)) :
    [t].intercalate (tokensOfFields ((key, e) :: f :: rest)) =
      keyToken key :: .colon :: (e.tokens ++ t :: [t].intercalate (tokensOfFields (f :: rest))) := by
  rw [tokensOfFields, tokensOfFields, List.intercalate_cons_cons, List.append_assoc,
    List.singleton_append]
  rfl

mutual

/-- **The tokens of a type expression are read as its members**, wherever they stand. -/
theorem reads_tokens : ∀ e : TypeExpr, e.isWellFormed = true → Reads e.tokens e.parts
  | .name n, h => reads_name h
  | .apply n args, h => by
    simp only [isWellFormed, Bool.and_eq_true, bne_iff_ne, Bool.not_eq_true',
      List.isEmpty_eq_false_iff] at h
    obtain ⟨⟨⟨hname, hnever⟩, hne⟩, hargs⟩ := h
    have hstart : ∀ frames, step ⟨frames, .operand⟩ (.word n) = some ⟨frames, .after (.name n)⟩ :=
      fun frames => (start_name hname frames).trans (by rw [Meaning.ofName, if_neg hnever])
    refine ⟨[], .apply n (meanings args), rfl, fun o before frames => ?_⟩
    rw [tokens, run_cons (hstart _), run_cons rfl, run_arguments args hne hargs, List.append_nil,
      List.nil_append]
  | .literal value, _ => reads_of_start (fun _ => rfl)
  | .number numeral, h => reads_number h
  | .union members, h => by
    simp only [isWellFormed, Bool.and_eq_true, Bool.not_eq_true', List.isEmpty_eq_false_iff] at h
    exact reads_members members h.1.1 (List.all_eq_true.1 h.1.2) h.2
  | .array item, h => by
    simp only [isWellFormed, Bool.and_eq_true] at h
    have hitem : Reads item.tokens [item.meaning] :=
      parts_of_isOperand h.1 ▸ reads_tokens item h.2
    exact hitem.brackets
  | .group inner, h => by
    have hinner : Reads _ [Meaning.anyOf inner.parts] := (reads_tokens inner h).group
    rwa [anyOf_parts] at hinner
  | .object [], _ => by
    refine ⟨[], .object [], rfl, fun o before frames => ?_⟩
    rw [List.append_nil]
    rfl
  | .object (f :: fields), h => by
    refine ⟨[], .object (fieldMeanings (f :: fields)), rfl, fun o before frames => ?_⟩
    rw [tokens, run_cons rfl, run_fields (f :: fields) (List.cons_ne_nil f fields) h,
      List.append_nil, List.nil_append]

theorem reads_members : ∀ members : List TypeExpr, members ≠ [] →
    (∀ e ∈ members, e.isOperand = true) → areWellFormed members = true →
      Reads ([.bar].intercalate (tokensOf members)) (meanings members)
  | [], hne, _, _ => absurd rfl hne
  | [e], _, hop, h => by
    simp only [areWellFormed, Bool.and_eq_true] at h
    have he : Reads e.tokens [e.meaning] :=
      parts_of_isOperand (hop e List.mem_cons_self) ▸ reads_tokens e h.1
    rwa [tokensOf, tokensOf, List.intercalate_singleton]
  | e :: f :: rest, _, hop, h => by
    rw [areWellFormed, Bool.and_eq_true] at h
    have he : Reads e.tokens [e.meaning] :=
      parts_of_isOperand (hop e List.mem_cons_self) ▸ reads_tokens e h.1
    have hrest := reads_members (f :: rest) (List.cons_ne_nil f rest)
      (fun g hg => hop g (List.mem_cons_of_mem e hg)) h.2
    rw [intercalate_tokensOf, meanings]
    exact he.bar hrest

theorem run_arguments : ∀ args : List TypeExpr, args ≠ [] → areWellFormed args = true →
    ∀ n before frames, run ⟨⟨.arguments n before, []⟩ :: frames, .operand⟩
        ([.comma].intercalate (tokensOf args) ++ [.closeAngle]) =
      some ⟨frames, .after (.apply n (before ++ meanings args))⟩
  | [], hne, _, _, _, _ => absurd rfl hne
  | [e], _, h, n, before, frames => by
    simp only [areWellFormed, Bool.and_eq_true] at h
    rw [tokensOf, tokensOf, List.intercalate_singleton, (reads_tokens e h.1).close rfl, anyOf_parts]
    rfl
  | e :: f :: rest, _, h, n, before, frames => by
    rw [areWellFormed, Bool.and_eq_true] at h
    rw [intercalate_tokensOf, List.append_assoc, List.cons_append, (reads_tokens e h.1).close rfl,
      run_arguments (f :: rest) (List.cons_ne_nil f rest) h.2, anyOf_parts,
      List.append_assoc, List.singleton_append]
    rfl

theorem run_fields : ∀ fields : List (Text × TypeExpr), fields ≠ [] →
    haveWellFormed fields = true → ∀ before frames, run ⟨frames, .key before⟩
        ([.semicolon].intercalate (tokensOfFields fields) ++ [.closeBrace]) =
      some ⟨frames, .after (.object (before ++ fieldMeanings fields))⟩
  | [], hne, _, _, _ => absurd rfl hne
  | [(key, e)], _, h, before, frames => by
    simp only [haveWellFormed, Bool.and_eq_true] at h
    rw [tokensOfFields, tokensOfFields, List.intercalate_singleton, List.cons_append,
      List.cons_append, run_cons (step_keyToken h.1.1 frames before), run_cons rfl,
      (reads_tokens e h.1.2).close rfl, anyOf_parts]
    rfl
  | (key, e) :: f :: rest, _, h, before, frames => by
    rw [haveWellFormed, Bool.and_eq_true, Bool.and_eq_true] at h
    rw [intercalate_tokensOfFields, List.cons_append, List.cons_append, List.append_assoc,
      List.cons_append, run_cons (step_keyToken h.1.1 frames before), run_cons rfl,
      (reads_tokens e h.1.2).close rfl, run_fields (f :: rest) (List.cons_ne_nil f rest) h.2,
      anyOf_parts, List.append_assoc, List.singleton_append]
    rfl

end

end TypeExpr

namespace Reader

theorem run_of_reads {ts : List Token} {ms : List Meaning} (ht : Reads ts ms) :
    (run ⟨[⟨.whole, []⟩], .operand⟩ ts).bind State.result = some (.anyOf ms) := by
  obtain ⟨init, last, rfl, ht⟩ := ht
  rw [ht .whole [] []]
  rfl

theorem read_of_cut {t : Text} {e : TypeExpr} (h : e.isWellFormed = true)
    (ht : Token.cut t = some e.tokens) : read t = some e.meaning := by
  have hrun := run_of_reads (e.reads_tokens h)
  rw [TypeExpr.anyOf_parts] at hrun
  rw [read, ht]
  exact hrun

end Reader

/-- A text stands for a meaning: it has the tokens of a type expression that means this. -/
def Stands (t : Text) (m : Meaning) : Prop :=
  ∃ e : TypeExpr, e.isWellFormed = true ∧ Token.cut t = some e.tokens ∧ e.meaning = m

theorem TypeExpr.stands_render {e : TypeExpr} (h : e.isWellFormed = true) :
    Stands e.render e.meaning :=
  ⟨e, h, cut_render h, rfl⟩

theorem Stands.read_eq {t : Text} {m : Meaning} : Stands t m → Reader.read t = some m
  | ⟨_, h, ht, hm⟩ => hm ▸ Reader.read_of_cut h ht

/-- **No text stands for two meanings.** -/
theorem Stands.unique {t : Text} {m n : Meaning} (hm : Stands t m) (hn : Stands t n) : m = n :=
  Option.some.inj (hm.read_eq.symm.trans hn.read_eq)

end ApiTypes
