import ApiTypes.Tool.ByteSet
/-!
# Patterns

A pattern is matched against a whole text.  A star stands for any run of characters, a question mark
for any one, and brackets for one of several; every other character, and every quoted one, stands for
itself.
-/
namespace ApiTypes
namespace Script

structure Glyph where
  char : Char
  quoted : Bool
deriving DecidableEq

inductive Member where
  | range (low high : Char)
  | named (name : Octets)
deriving DecidableEq

inductive PatternItem where
  | exactly (c : Char)
  | anyOne
  | anyRun
  | oneOf (negated : Bool) (members : List Member)
deriving DecidableEq

abbrev Pattern := List PatternItem

def Member.holds (m : Member) (c : Char) : Bool :=
  match m with
  | .range low high => low ≤ c && c ≤ high
  | .named name => (ByteSet.classBytes name).contains c

def PatternItem.holds (item : PatternItem) (c : Char) : Bool :=
  match item with
  | .exactly a => a = c
  | .anyOne => true
  | .anyRun => true
  | .oneOf negated members => members.any (·.holds c) != negated

/-- Whether a pattern matches some text that is left when characters are dropped from the front. -/
def matchesLater (later : Octets → Bool) : Octets → Bool
  | [] => later []
  | c :: rest => later (c :: rest) || matchesLater later rest

def Pattern.matchesAll : Pattern → Octets → Bool
  | [], t => t.isEmpty
  | .anyRun :: p, t => matchesLater (Pattern.matchesAll p) t
  | _ :: _, [] => false
  | item :: p, c :: rest => item.holds c && Pattern.matchesAll p rest

/-! ## Reading patterns -/

def Glyph.isPlain (g : Glyph) (c : Char) : Bool := g.char = c && !g.quoted

def className? (glyphs : List Glyph) : Option (Octets × List Glyph) :=
  let inner := glyphs.takeWhile (fun g => g.char ≠ ':')
  match glyphs.drop inner.length with
  | colon :: close :: rest =>
    if colon.isPlain ':' && close.isPlain ']' then some (inner.map (·.char), rest) else none
  | _ => none

/-- The members between brackets and what follows; none if the brackets are not closed.  `first`
holds in front of the first member, which may be a bracket itself; `steps` is at least the number of
glyphs. -/
def readMembers : (steps : Nat) → (first : Bool) → List Glyph → Option (List Member × List Glyph)
  | 0, _, _ => none
  | _, _, [] => none
  | steps + 1, first, g :: rest =>
    if g.isPlain ']' && !first then some ([], rest)
    else
      let named : Option (Octets × List Glyph) :=
        match g.isPlain '[', rest with
        | true, colon :: inner => if colon.isPlain ':' then className? inner else none
        | _, _ => none
      match named with
      | some (name, rest) =>
        (readMembers steps false rest).map (fun r => (.named name :: r.1, r.2))
      | none =>
        match rest with
        | dash :: high :: behind =>
          if dash.isPlain '-' && !high.isPlain ']' then
            (readMembers steps false behind).map
              (fun r => (.range g.char high.char :: r.1, r.2))
          else (readMembers steps false rest).map (fun r => (.range g.char g.char :: r.1, r.2))
        | _ => (readMembers steps false rest).map (fun r => (.range g.char g.char :: r.1, r.2))

/-- The glyphs with unquoted backslashes taken for what they are: quotes of the next character. -/
def resolveEscapes : List Glyph → List Glyph
  | g :: next :: rest =>
    if g.isPlain '\\' then ⟨next.char, true⟩ :: resolveEscapes rest
    else g :: resolveEscapes (next :: rest)
  | rest => rest

/-- The pattern that glyphs spell; `steps` is at least their number. -/
def readPattern : (steps : Nat) → List Glyph → Pattern
  | 0, _ => []
  | _, [] => []
  | steps + 1, g :: rest =>
    if g.isPlain '*' then .anyRun :: readPattern steps rest
    else if g.isPlain '?' then .anyOne :: readPattern steps rest
    else if g.isPlain '[' then
      let negated : Bool := rest.head?.any (fun n => n.isPlain '!' || n.isPlain '^')
      match readMembers (rest.length + 1) true (if negated then rest.tail else rest) with
      | some (members, behind) => .oneOf negated members :: readPattern steps behind
      | none => .exactly '[' :: readPattern steps rest
    else .exactly g.char :: readPattern steps rest

def Pattern.ofGlyphs (glyphs : List Glyph) : Pattern :=
  let glyphs := resolveEscapes glyphs
  readPattern glyphs.length glyphs

end Script
end ApiTypes
