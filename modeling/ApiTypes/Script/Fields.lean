import ApiTypes.Disk
import ApiTypes.Script.Pattern
/-!
# Fields

What parameters and commands put into a word is cut into fields at the separators.  Blanks among the
separators only part fields, and are nothing at the ends; each other separator ends a field.  A field
with an unquoted sign of a pattern stands for the paths that match it, if there are any.
-/
namespace ApiTypes
namespace Script

inductive Mark where
  | glyph (g : Glyph)
  /-- Quotes, which make a field even if nothing is in them. -/
  | quotes
  | gap
deriving DecidableEq

inductive Cutting where
  | never
  | atSeparators
  | atGaps
deriving DecidableEq

structure Stretch where
  cutting : Cutting
  marks : List Mark

def Mark.char? : Mark → Option Char
  | .glyph g => some g.char
  | .quotes => none
  | .gap => none

def plainText (marks : List Mark) : Octets := marks.filterMap Mark.char?

def glyphsOf (marks : List Mark) : List Glyph :=
  marks.filterMap fun
    | .glyph g => some g
    | _ => none

def marksOf (quoted : Bool) (t : Octets) : List Mark := t.map (fun c => .glyph ⟨c, quoted⟩)

/-! ## Cutting -/

/-- What is known between two marks of a word that is being cut. -/
structure Cut where
  fields : List (List Mark)
  current : List Mark
  /-- Whether blanks lie behind, which may belong to a separator. -/
  blank : Bool
  /-- How many fields are still to be cut off; `none` is without a limit. -/
  limit : Option Nat
  /-- Where the last field ends if only blanks follow. -/
  kept : Option (List Mark)

namespace Cut

def separation (separators : Octets) : Mark → Bool × Bool
  | .glyph g =>
    let isSeparator := separators.contains g.char
    (isSeparator, isSeparator && [' ', '\t', '\n'].contains g.char)
  | .gap => (true, true)
  | .quotes => (false, false)

def stepLast (c : Cut) (m : Mark) (isSeparator isBlank : Bool) : Cut :=
  if isBlank then
    { c with current := m :: c.current, kept := some (c.kept.getD c.current) }
  else
    { c with
      current := m :: c.current
      kept := if isSeparator && c.blank then c.kept else none
      blank := false }

/-- One mark further in a stretch that is cut.  Where `gapsOnly` holds, what parts fields is never
taken for a blank. -/
def step (separators : Octets) (gapsOnly : Bool) (c : Cut) (m : Mark) : Cut :=
  let (isSeparator, isBlank) := separation separators m
  if c.limit = some 0 then c.stepLast m isSeparator isBlank
  else if c.blank && isBlank then c
  else if c.blank && isSeparator then { c with blank := false }
  else if isSeparator then
    let blank := isBlank && !gapsOnly
    if c.current.isEmpty && blank then { c with blank := false }
    else if c.limit = some 1 then
      { c with limit := some 0, kept := some c.current, current := m :: c.current, blank := blank }
    else
      { c with
        fields := c.current.reverse :: c.fields
        current := []
        blank := blank
        limit := c.limit.map (· - 1) }
  else { c with current := m :: c.current, blank := false }

/-- Whether stretches are cut at gaps, from the last stretch that is cut at all. -/
def endsAtGaps : List Stretch → Bool
  | [] => false
  | s :: rest =>
    if rest.any (fun r => r.cutting ≠ .never) then endsAtGaps rest else s.cutting = .atGaps

/-- All stretches cut; `afterGaps` tells of the last stretch that was cut at all. -/
def run (separators : Octets) : (afterGaps : Bool) → Cut → List Stretch → Cut
  | _, c, [] => c
  | afterGaps, c, s :: rest =>
    match s.cutting with
    | .never => run separators afterGaps { c with current := s.marks.reverse ++ c.current } rest
    | .atSeparators =>
      run separators false (s.marks.foldl (step separators afterGaps) { c with blank := false })
        rest
    | .atGaps => run separators true (s.marks.foldl (step [] true) { c with blank := false }) rest

end Cut

def fieldsOf (separators : Octets) (limit : Option Nat) (stretches : List Stretch) :
    List (List Mark) :=
  let c := Cut.run separators false ⟨[], [], false, limit, none⟩ stretches
  let last := c.kept.getD c.current
  if last.isEmpty && !Cut.endsAtGaps stretches then c.fields.reverse
  else (last.reverse :: c.fields).reverse

/-! ## Trimming -/

def textToGap (marks : List Mark) : Octets := plainText (marks.takeWhile (· ≠ .gap))

/-- Marks without what a pattern matches at one of their ends.  What is matched reaches to a gap at
most, but what is behind the gap goes with it. -/
def trimMarks (p : Pattern) (atEnd longest : Bool) (marks : List Mark) : List Mark :=
  let all := List.range (marks.length + 1)
  let toGap := List.range ((marks.takeWhile (· ≠ .gap)).length + 1)
  if atEnd then
    let matching (n : Nat) : Bool := p.matchesAll (textToGap (marks.drop n))
    (((if longest then toGap else all.reverse).find? matching).map marks.take).getD marks
  else
    let matching (n : Nat) : Bool := p.matchesAll (textToGap (marks.take n))
    (((if longest then all.reverse else toGap).find? matching).map marks.drop).getD marks

/-! ## Paths that match -/

def Glyph.isSign (g : Glyph) : Bool := !g.quoted && ['*', '?', '['].contains g.char

/-- Glyphs cut at the first run of slashes: what is in front of it, the slashes, and the rest. -/
def cutAtSlashes (glyphs : List Glyph) : List Glyph × Octets × List Glyph :=
  let isSlash (g : Glyph) : Bool := g.char = '/'
  let front := glyphs.takeWhile (fun g => !isSlash g)
  let behind := glyphs.drop front.length
  let slashes := behind.takeWhile isSlash
  (front, slashes.map (·.char), behind.drop slashes.length)

def isBefore : Octets → Octets → Bool
  | [], _ => true
  | _ :: _, [] => false
  | a :: as, b :: bs => a < b || (a = b && isBefore as bs)

def namesIn (d : Disk) (path : Octets) : List Octets :=
  let p := Path.ofText path.toText
  match d.walk (d.start p) p.names with
  | .error _ => []
  | .ok place =>
    let inner := d.entries.filterMap fun e =>
      match place.isPrefixOf e.1, e.1.drop place.length with
      | true, [name] => some (Octets.ofText name)
      | _, _ => none
    (Octets.ofText Path.here :: Octets.ofText Path.above :: inner).mergeSort isBefore

/-- The paths that glyphs stand for, behind a path that has been found; `steps` is at least the
number of glyphs. -/
def matchingPaths (d : Disk) : (steps : Nat) → (path : Octets) → List Glyph → List Octets
  | 0, _, _ => []
  | steps + 1, path, glyphs =>
    let (front, slashes, rest) := cutAtSlashes glyphs
    let names :=
      if front.any Glyph.isSign then
        let pattern := Pattern.ofGlyphs front
        let showsHidden : Bool := front.head?.any (fun g => g.char = '.')
        (namesIn d (if path.isEmpty then Octets.ofText Path.here else path)).filter fun name =>
          (showsHidden || name.head? ≠ some '.') && pattern.matchesAll name
      else [front.map (·.char)]
    names.flatMap fun name =>
      let path := path ++ name ++ slashes
      if rest.isEmpty then
        if (d.entryAt (Path.ofText path.toText)).isOk then [path] else []
      else matchingPaths d steps path rest

def textsOf (d : Disk) (usesPatterns : Bool) (field : List Mark) : List Octets :=
  let glyphs := glyphsOf field
  if usesPatterns && glyphs.any Glyph.isSign then
    let found := matchingPaths d (glyphs.length + 1) [] (resolveEscapes glyphs)
    if found.isEmpty then [plainText field] else found
  else [plainText field]

end Script
end ApiTypes
