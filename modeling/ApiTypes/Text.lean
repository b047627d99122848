/-!
# Text as a list of characters

Every document, name and declaration of the library is a `Text`: a list of characters, so that a
statement about a text is a statement about a list.  A string literal stands for its characters.

This module holds the operations that the rest shares: joining with a separator, cutting into
pieces at separator characters, replacing every occurrence of a needle, decimal numerals.
-/
namespace ApiTypes

abbrev Text := List Char

instance : Coe String Text := ⟨String.toList⟩

namespace Text

def join (sep : Text) (parts : List Text) : Text := sep.intercalate parts

def joinLines (lines : List Text) : Text := join ['\n'] lines

theorem join_nil (sep : Text) : join sep [] = [] := rfl

theorem join_singleton (sep part : Text) : join sep [part] = part := by
  simp [join, List.intercalate]

theorem join_cons_cons (sep a b : Text) (rest : List Text) :
    join sep (a :: b :: rest) = a ++ sep ++ join sep (b :: rest) := by
  simp [join, List.intercalate]

/-! ## Cutting at separators

`pieces` keeps the empty pieces, so `n` separators always give `n + 1` pieces; `tokens` drops
them. -/

/-- The pieces between the separators, empty ones included. -/
def pieces (isSep : Char → Bool) : Text → List Text
  | [] => [[]]
  | c :: rest =>
    if isSep c then [] :: pieces isSep rest
    else match pieces isSep rest with
      | [] => [[c]]
      | p :: ps => (c :: p) :: ps

/-- The pieces between the separators that hold at least one character. -/
def tokens (isSep : Char → Bool) (t : Text) : List Text :=
  (pieces isSep t).filter (fun p => !p.isEmpty)

theorem pieces_ne_nil (isSep : Char → Bool) : ∀ t : Text, pieces isSep t ≠ []
  | [] => by simp [pieces]
  | c :: rest => by
    unfold pieces
    split
    · simp
    · split <;> simp

/-- **A separator cuts a text in two**, and each side is cut on its own. -/
theorem pieces_append_sep (isSep : Char → Bool) {s : Char} (hs : isSep s = true) (b : Text) :
    ∀ a : Text, pieces isSep (a ++ s :: b) = pieces isSep a ++ pieces isSep b
  | [] => by simp [pieces, hs]
  | c :: rest => by
    have ih := pieces_append_sep isSep hs b rest
    by_cases hc : isSep c = true
    · simp [pieces, hc, ih]
    · simp only [List.cons_append, pieces, hc, ih]
      cases h : pieces isSep rest with
      | nil => exact absurd h (pieces_ne_nil isSep rest)
      | cons p ps => simp

theorem tokens_append_sep (isSep : Char → Bool) {s : Char} (hs : isSep s = true) (a b : Text) :
    tokens isSep (a ++ s :: b) = tokens isSep a ++ tokens isSep b := by
  simp [tokens, pieces_append_sep isSep hs b a]

/-! ## Replacing

The scan runs from left to right and goes on behind each occurrence it replaces, so occurrences
never overlap and a replacement is never scanned again. -/

/-- `skip` counts the characters of the occurrence just replaced that are still to be passed
over. -/
def replaceFrom (needle new : Text) : (skip : Nat) → Text → Text
  | _, [] => []
  | skip + 1, _ :: rest => replaceFrom needle new skip rest
  | 0, c :: rest =>
    if needle.isPrefixOf (c :: rest) then new ++ replaceFrom needle new (needle.length - 1) rest
    else c :: replaceFrom needle new 0 rest

def replaceAll (needle new t : Text) : Text := replaceFrom needle new 0 t

/-! ## Numerals -/

def ofNat (n : Nat) : Text := Nat.toDigits 10 n

def ofInt : Int → Text
  | .ofNat n => ofNat n
  | .negSucc n => '-' :: ofNat (n + 1)

def byteLength : Text → Nat
  | [] => 0
  | c :: rest => c.utf8Size + byteLength rest

end Text
end ApiTypes
