import ApiTypes.Text
/-!
# White space

A character is blank if it has the Unicode property White_Space.  The property holds of twenty-five
characters, the last of them the ideographic space; `Char.isWhitespace` knows four of them.
-/
namespace ApiTypes

/-- The code points with the property White_Space, as ranges with both ends included. -/
def blankRanges : List (Nat × Nat) :=
  [(0x09, 0x0D), (0x20, 0x20), (0x85, 0x85), (0xA0, 0xA0), (0x1680, 0x1680), (0x2000, 0x200A),
   (0x2028, 0x2029), (0x202F, 0x202F), (0x205F, 0x205F), (0x3000, 0x3000)]

def isBlank (c : Char) : Bool :=
  blankRanges.any (fun r => r.1 ≤ c.toNat && c.toNat ≤ r.2)

namespace Text

def words (t : Text) : List Text := tokens isBlank t

def trim (t : Text) : Text :=
  ((t.dropWhile isBlank).reverse.dropWhile isBlank).reverse

end Text
end ApiTypes
