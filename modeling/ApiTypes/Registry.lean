import ApiTypes.Text
import Std.Data.HashSet
/-!
# The names a section has declared

The names are kept twice: in a hash set, for the question whether a name is there, and in the order
of their first appearance.  A registry belongs to one section; another section may use the same
display name for another shape.
-/
namespace ApiTypes

instance : Hashable Text := ⟨fun t => hash (String.ofList t)⟩

/-- The names declared so far. -/
structure Registry where
  declared : Std.HashSet Text
  /-- The same names, the last one first. -/
  latest : List Text

namespace Registry

def empty : Registry := ⟨∅, []⟩

def contains (r : Registry) (name : Text) : Bool := r.declared.contains name

def register (r : Registry) (name : Text) : Bool × Registry :=
  if r.contains name then (false, r) else (true, ⟨r.declared.insert name, name :: r.latest⟩)

def names (r : Registry) : List Text := r.latest.reverse

/-! ## What a registration changes

The hash set is looked into nowhere else: these equations say all that the set is used for. -/

theorem contains_empty (name : Text) : empty.contains name = false := by
  simp [empty, contains]

theorem isNew_register (r : Registry) (name : Text) :
    (r.register name).1 = !r.contains name := by
  by_cases h : r.contains name = true <;> simp [register, h]

theorem contains_register (r : Registry) (name other : Text) :
    (r.register name).2.contains other = (name == other || r.contains other) := by
  by_cases h : r.contains name = true
  · by_cases ho : name = other
    · subst ho; simp [register, h]
    · simp [register, h, ho]
  · rw [register, if_neg h]
    simp [contains]

theorem names_register (r : Registry) (name : Text) :
    (r.register name).2.names = if r.contains name then r.names else r.names ++ [name] := by
  by_cases h : r.contains name = true <;> simp [register, h, names]

end Registry
end ApiTypes
