import ApiTypes.Text.Utf8
/-!
# Strings of bytes

Programs pass each other bytes that need not be text.  Where they are taken apart letter by letter,
a byte is written as the character of its number, so that such a string is a list of characters
below 256 and can be matched against letters.
-/
namespace ApiTypes

/-- A string of bytes, each written as the character of its number. -/
abbrev Octets := Text

namespace Octets

def ofBytes (bytes : Bytes) : Octets := bytes.map (fun b => Char.ofNat b.toNat)

def toBytes (o : Octets) : Bytes := o.map (fun c => UInt8.ofNat c.toNat)

def ofText (t : Text) : Octets := ofBytes t.utf8

/-- The text that a string of bytes stands for, with U+FFFD for what is malformed. -/
def toText (o : Octets) : Text := Text.ofUtf8Lossy (toBytes o)

theorem toNat_ofNat_byte (b : UInt8) : (Char.ofNat b.toNat).toNat = b.toNat := by
  have h : b.toNat < 256 := b.toNat_lt
  have valid : b.toNat.isValidChar := Or.inl (by omega)
  rw [Char.ofNat, dif_pos valid]
  rfl

theorem toBytes_ofBytes (bytes : Bytes) : toBytes (ofBytes bytes) = bytes := by
  simp [toBytes, ofBytes, Function.comp_def, toNat_ofNat_byte]

end Octets
end ApiTypes
