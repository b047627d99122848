import ApiTypes.Text.Blank
/-!
# Type expressions

The types that declarations use, as trees.  The written form is fixed by the tree: a group stands in
parentheses, a union has a bar between its members, an array ends in brackets.  A reader of the form
can thus be held against the tree.
-/
namespace ApiTypes

inductive TypeExpr where
  | name (n : Text)
  | apply (n : Text) (args : List TypeExpr)
  | literal (value : Text)
  /-- The type of one number, given as it is written. -/
  | number (numeral : Text)
  | union (members : List TypeExpr)
  | array (item : TypeExpr)
  | group (inner : TypeExpr)
  | object (fields : List (Text × TypeExpr))

namespace TypeExpr

def unknown : TypeExpr := .name "unknown"

/-- The union of strings; of no string, the type without values. -/
def ofLiterals (values : List Text) : TypeExpr :=
  if values.isEmpty then .name "never" else .union (values.map .literal)

def escapeChar (c : Char) : Text := if c = '\\' || c = '"' then ['\\', c] else [c]

def renderLiteral (value : Text) : Text := '"' :: value.flatMap escapeChar ++ ['"']

/-- Whether a field name is written as a string literal: it starts with a digit, or holds white
space or a hyphen. -/
def needsQuotes (name : Text) : Bool :=
  (name.head?.map Char.isDigit).getD false || name.any (fun c => isBlank c || c = '-')

def renderKey (name : Text) : Text := if needsQuotes name then renderLiteral name else name

mutual

def render : TypeExpr → Text
  | .name n => n
  | .apply n args => n ++ "<" ++ Text.join ", " (renderList args) ++ ">"
  | .literal value => renderLiteral value
  | .number numeral => numeral
  | .union members => Text.join " | " (renderList members)
  | .array item => item.render ++ "[]"
  | .group inner => "(" ++ inner.render ++ ")"
  | .object fields =>
    if fields.isEmpty then "\x7b\x7d"
    else "\x7b " ++ Text.join "; " (renderFields fields) ++ " \x7d"

def renderList : List TypeExpr → List Text
  | [] => []
  | t :: rest => t.render :: renderList rest

def renderFields : List (Text × TypeExpr) → List Text
  | [] => []
  | (key, t) :: rest => (renderKey key ++ ": " ++ t.render) :: renderFields rest

end

end TypeExpr
end ApiTypes
