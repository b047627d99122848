import ApiTypes.Declaration
import ApiTypes.Proofs.Schema.Members
/-!
# Registering names

A registry keeps its names twice, in a set and in a list.  The two are only ever changed together: one
more call keeps them in agreement with the calls made (`Agrees.register`), and so they agree after any
calls (`agrees_registerAll`).  A section makes its calls in the order of its pools.
-/
namespace ApiTypes

open Naming (structureName)

namespace Registry

def registerAll (r : Registry) (calls : List Text) : Registry :=
  calls.foldl (fun r name => (r.register name).2) r

theorem registerAll_append (r : Registry) (calls more : List Text) :
    r.registerAll (calls ++ more) = (r.registerAll calls).registerAll more :=
  List.foldl_append

/-- The set and the list both hold the names of some calls. -/
structure Agrees (r : Registry) (calls : List Text) : Prop where
  contains_iff : ∀ name, r.contains name = true ↔ name ∈ calls
  firstSeen : FirstSeen calls r.names

theorem agrees_empty : empty.Agrees [] where
  contains_iff name := by
    rw [contains_empty]
    exact ⟨nofun, nofun⟩
  firstSeen := ⟨List.nodup_nil, fun _ => Iff.rfl, List.Pairwise.nil⟩

namespace Agrees

variable {r : Registry} {calls : List Text}

theorem isNew_iff (h : r.Agrees calls) (name : Text) :
    (r.register name).1 = true ↔ name ∉ calls := by
  rw [isNew_register, Bool.not_eq_true', ← h.contains_iff, Bool.not_eq_true]

theorem register_eq_self_iff (h : r.Agrees calls) (name : Text) :
    r.register name = (false, r) ↔ name ∈ calls := by
  constructor
  · intro hsame
    by_contra hname
    have hnew : (r.register name).1 = true := (h.isNew_iff name).2 hname
    rw [hsame] at hnew
    cases hnew
  · intro hname
    rw [register, if_pos ((h.contains_iff name).2 hname)]

theorem register (h : r.Agrees calls) (name : Text) :
    (r.register name).2.Agrees (calls ++ [name]) where
  contains_iff other := by
    rw [contains_register, Bool.or_eq_true, beq_iff_eq, h.contains_iff, List.mem_append,
      List.mem_singleton, or_comm, eq_comm]
  firstSeen := by
    rw [names_register]
    by_cases hname : name ∈ calls
    · rw [if_pos ((h.contains_iff name).2 hname)]
      exact h.firstSeen.concat_of_mem hname
    · rw [if_neg (fun hc => hname ((h.contains_iff name).1 hc))]
      exact h.firstSeen.concat_of_not_mem hname

theorem registerAll : ∀ (more : List Text) {r : Registry} {calls : List Text}, r.Agrees calls →
    (r.registerAll more).Agrees (calls ++ more)
  | [], _, _, h => by
    rw [List.append_nil]
    exact h
  | name :: more, _, _, h => by
    rw [List.append_cons]
    exact registerAll more (h.register name)

end Agrees

theorem agrees_registerAll (calls : List Text) : (empty.registerAll calls).Agrees calls :=
  Agrees.registerAll calls agrees_empty

end Registry

namespace Selection

theorem registry_declareStructures (scope : Scope) : ∀ (pool : List Structure) (r : Registry),
    (declareStructures scope pool r).value.2 =
      r.registerAll (pool.map (structureName scope.stem))
  | [], _ => rfl
  | s :: rest, r => by
    rw [declareStructures, List.map_cons, Registry.registerAll, List.foldl_cons]
    generalize r.register (structureName scope.stem s) = answer
    obtain ⟨isNew, registry⟩ := answer
    cases isNew with
    | false => exact registry_declareStructures scope rest registry
    | true => exact registry_declareStructures scope rest registry

theorem registry_declare (stem : Text) (s : Selection) (r : Registry) :
    (s.declare stem r).value.2 = r.registerAll (s.structures.map (structureName stem)) :=
  registry_declareStructures (s.scope stem) s.structures r

end Selection

/-- **The set and the list of a registry agree after any calls.**  The list holds the names of the
calls, each where it came first; the set holds just these; a call finds its name new just if it is not
among them, and changes nothing otherwise.  What a selection adds are calls of this kind, those of its
pool in order. -/
theorem registered_names_agree (calls : List Text) :
    let r := Registry.empty.registerAll calls
    FirstSeen calls r.names ∧
    (∀ name, (r.contains name = true ↔ name ∈ r.names) ∧ (r.contains name = true ↔ name ∈ calls)) ∧
    (∀ name, ((r.register name).1 = true ↔ name ∉ calls) ∧
      (r.register name = (false, r) ↔ name ∈ calls) ∧
      (r.register name).2 = Registry.empty.registerAll (calls ++ [name])) ∧
    ∀ stem (s : Selection), (s.declare stem r).value.2 =
      Registry.empty.registerAll (calls ++ s.structures.map (structureName stem)) := by
  intro r
  have h : r.Agrees calls := Registry.agrees_registerAll calls
  refine ⟨h.firstSeen, fun name => ⟨?_, h.contains_iff name⟩, fun name =>
    ⟨h.isNew_iff name, h.register_eq_self_iff name, ?_⟩, fun stem s => ?_⟩
  · rw [h.contains_iff, h.firstSeen.mem_iff]
  · rw [Registry.registerAll_append]
    rfl
  · rw [Registry.registerAll_append]
    exact Selection.registry_declare stem s r

end ApiTypes
