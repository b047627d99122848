import ApiTypes.Json
/-!
# Writing JSON

One function writes both forms.  They differ in what stands between the parts of a list or an
object: nothing in the compact form, a line break and two spaces for each level in the indented
form.
-/
namespace ApiTypes
namespace Json

/-- What stands between the parts of a document. -/
structure Layout where
  /-- In front of a part at a level of nesting, and of a closing bracket. -/
  gap : Nat → Text
  colon : Text

def compact : Layout := ⟨fun _ => [], ":"⟩

/-- Every part on a line of its own, two spaces further in for each level. -/
def indented : Layout := ⟨fun level => '\n' :: List.replicate (2 * level) ' ', ": "⟩

/-- One character of a string.  Only the quote, the backslash and the controls below the space have
an escape; those without a letter are given by number. -/
def escapeChar (c : Char) : Text :=
  match c with
  | '"' => ['\\', '"']
  | '\\' => ['\\', '\\']
  | '\x08' => ['\\', 'b']
  | '\x0c' => ['\\', 'f']
  | '\n' => ['\\', 'n']
  | '\r' => ['\\', 'r']
  | '\t' => ['\\', 't']
  | _ =>
    if c.toNat < 32 then
      ['\\', 'u', '0', '0', Nat.digitChar (c.toNat / 16), Nat.digitChar (c.toNat % 16)]
    else [c]

def renderString (t : Text) : Text := '"' :: t.flatMap escapeChar ++ ['"']

/-- Parts between brackets; nothing stands between the brackets of an empty container. -/
def enclose (layout : Layout) (level : Nat) (opening closing : Char) (parts : List Text) : Text :=
  if parts.isEmpty then [opening, closing]
  else
    [opening] ++ Text.join [','] (parts.map (layout.gap (level + 1) ++ ·)) ++ layout.gap level
      ++ [closing]

mutual

def renderAt (layout : Layout) (level : Nat) : Json → Text
  | .null => "null"
  | .bool true => "true"
  | .bool false => "false"
  | .int n => Text.ofInt n
  | .double x => x.render doubleLayout
  | .str t => renderString t
  | .arr items => enclose layout level '[' ']' (renderItems layout (level + 1) items)
  | .obj members => enclose layout level '\x7b' '\x7d' (renderMembers layout (level + 1) members)

def renderItems (layout : Layout) (level : Nat) : List Json → List Text
  | [] => []
  | v :: rest => renderAt layout level v :: renderItems layout level rest

def renderMembers (layout : Layout) (level : Nat) : List (Text × Json) → List Text
  | [] => []
  | (k, v) :: rest =>
    (renderString k ++ layout.colon ++ renderAt layout level v) :: renderMembers layout level rest

end

def render (v : Json) : Text := renderAt compact 0 v

def renderIndented (v : Json) : Text := renderAt indented 0 v

/-- A value as an identifier: a string as it is, any other value by its compact form. -/
def idText : Json → Text
  | .str t => t
  | v => v.render

end Json
end ApiTypes
