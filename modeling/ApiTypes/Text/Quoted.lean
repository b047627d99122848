import ApiTypes.Text.HiddenTable
import ApiTypes.Text
/-!
# A text quoted inside a message

The quoted form stands between double quotes.  Characters with a short escape use it, characters
that would not show are given by number, and every other character stands for itself.
-/
namespace ApiTypes

def isHidden (c : Char) : Bool :=
  let holds (r : Nat × Nat) : Bool := r.1 ≤ c.toNat && c.toNat ≤ r.2
  if c.toNat < 0x10000 then hiddenRangesBasic.any holds else hiddenRangesSupplementary.any holds

namespace Text

def quotedChar (c : Char) : Text :=
  match c with
  | '\x00' => ['\\', '0']
  | '\t' => ['\\', 't']
  | '\r' => ['\\', 'r']
  | '\n' => ['\\', 'n']
  | '\\' => ['\\', '\\']
  | '"' => ['\\', '"']
  | _ =>
    if isHidden c then ['\\', 'u', '\x7b'] ++ Nat.toDigits 16 c.toNat ++ ['\x7d'] else [c]

def quoted (t : Text) : Text := '"' :: t.flatMap quotedChar ++ ['"']

end Text
end ApiTypes
