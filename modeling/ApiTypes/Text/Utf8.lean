import ApiTypes.Text
/-!
# UTF-8

Bytes are read one at a time by a machine that is either between characters or inside one.  Inside,
it knows how many bytes the character still owes and between which bounds the next one must lie; the
bounds rule out overlong forms, surrogates and code points that do not exist.  A byte that does not
fit ends the character as malformed and is read again as the first byte of the next one.

`Text.ofUtf8` refuses bytes with a malformed character and says where it starts; `Text.ofUtf8Lossy`
puts U+FFFD in its place.
-/
namespace ApiTypes

abbrev Bytes := List UInt8

namespace Utf8

/-- A character of which some bytes have been read. -/
structure Open where
  seen : Nat
  owed : Nat
  low : Nat
  high : Nat
  bits : Nat

inductive Item where
  | char (c : Char)
  /-- So many bytes that no character starts with, or that the next byte cannot continue. -/
  | malformed (length : Nat)
  /-- So many bytes at the very end of a character that is not complete. -/
  | truncated (length : Nat)

def start (b : Nat) : List Item × Option Open :=
  if b < 0x80 then ([.char (Char.ofNat b)], none)
  else if b < 0xC2 then ([.malformed 1], none)
  else if b < 0xE0 then ([], some ⟨1, 1, 0x80, 0xBF, b - 0xC0⟩)
  else if b = 0xE0 then ([], some ⟨1, 2, 0xA0, 0xBF, 0⟩)
  else if b = 0xED then ([], some ⟨1, 2, 0x80, 0x9F, 0xD⟩)
  else if b < 0xF0 then ([], some ⟨1, 2, 0x80, 0xBF, b - 0xE0⟩)
  else if b = 0xF0 then ([], some ⟨1, 3, 0x90, 0xBF, 0⟩)
  else if b < 0xF4 then ([], some ⟨1, 3, 0x80, 0xBF, b - 0xF0⟩)
  else if b = 0xF4 then ([], some ⟨1, 3, 0x80, 0x8F, 4⟩)
  else ([.malformed 1], none)

def step : Option Open → Nat → List Item × Option Open
  | none, b => start b
  | some o, b =>
    if o.low ≤ b ∧ b ≤ o.high then
      if o.owed = 1 then ([.char (Char.ofNat (o.bits * 64 + (b - 0x80)))], none)
      else ([], some ⟨o.seen + 1, o.owed - 1, 0x80, 0xBF, o.bits * 64 + (b - 0x80)⟩)
    else
      let (items, next) := start b
      (.malformed o.seen :: items, next)

def items : Option Open → Bytes → List Item
  | none, [] => []
  | some o, [] => [.truncated o.seen]
  | state, b :: rest =>
    let (found, next) := step state b.toNat
    found ++ items next rest

end Utf8

/-- Why bytes are no text: at `index` starts a character that ends as malformed after `length`
bytes, or (`length` absent) that the end of the bytes cuts off. -/
structure Utf8Fault where
  index : Nat
  length : Option Nat
deriving DecidableEq

def Utf8Fault.message (fault : Utf8Fault) : Text :=
  match fault.length with
  | some n =>
    "invalid utf-8 sequence of " ++ Text.ofNat n ++ " bytes from index " ++ Text.ofNat fault.index
  | none => "incomplete utf-8 byte sequence from index " ++ Text.ofNat fault.index

namespace Text

def utf8 (t : Text) : Bytes := t.flatMap String.utf8EncodeChar

/-- The characters of the items up to the first one that is none; `index` counts the bytes
before. -/
def ofItems : (index : Nat) → List Utf8.Item → Except Utf8Fault Text
  | _, [] => .ok []
  | index, .char c :: rest => do
    let t ← ofItems (index + c.utf8Size) rest
    return c :: t
  | index, .malformed length :: _ => .error ⟨index, some length⟩
  | index, .truncated _ :: _ => .error ⟨index, none⟩

def ofUtf8 (bytes : Bytes) : Except Utf8Fault Text := ofItems 0 (Utf8.items none bytes)

/-- The text of the bytes, with U+FFFD for each malformed or cut off character. -/
def ofUtf8Lossy (bytes : Bytes) : Text :=
  (Utf8.items none bytes).map fun
    | .char c => c
    | .malformed _ => '\uFFFD'
    | .truncated _ => '\uFFFD'

end Text
end ApiTypes
