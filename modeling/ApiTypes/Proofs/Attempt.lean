import Mathlib.Data.List.Forall2
/-!
# Attempts

An attempt gives a value or a failure.  Two in a row succeed just if both do, and the failure of the
first one comes before that of the second; so it is with a list of attempts.  Two attempts are alike
if they fail alike or give values that belong together.
-/
namespace ApiTypes
namespace Attempt

variable {ε α β : Type}

theorem bind_eq_ok_iff {x : Except ε α} {f : α → Except ε β} {b : β} :
    x >>= f = .ok b ↔ ∃ a, x = .ok a ∧ f a = .ok b := by
  cases x with
  | error e =>
    constructor
    · rintro ⟨⟩
    · rintro ⟨_, ⟨⟩, _⟩
  | ok a =>
    constructor
    · intro h
      exact ⟨a, rfl, h⟩
    · rintro ⟨_, ⟨⟩, h⟩
      exact h

theorem bind_eq_error_iff {x : Except ε α} {f : α → Except ε β} {e : ε} :
    x >>= f = .error e ↔ x = .error e ∨ ∃ a, x = .ok a ∧ f a = .error e := by
  cases x with
  | error e' =>
    constructor
    · rintro ⟨⟩
      exact Or.inl rfl
    · rintro (⟨⟨⟩⟩ | ⟨_, ⟨⟩, _⟩)
      rfl
  | ok a =>
    constructor
    · intro h
      exact Or.inr ⟨a, rfl, h⟩
    · rintro (⟨⟨⟩⟩ | ⟨_, ⟨⟩, h⟩)
      exact h

theorem pure_eq_ok_iff {a b : α} : (pure a : Except ε α) = .ok b ↔ b = a :=
  ⟨fun h => by cases h; rfl, fun h => by rw [h]; rfl⟩

theorem pure_ne_error {a : α} {e : ε} : (pure a : Except ε α) ≠ .error e := by
  rintro ⟨⟩

theorem guard_eq_ok_iff {c : Prop} [Decidable c] {e : ε} {k : Unit → Except ε α} {a : α} :
    (if c then throw e >>= k else k ()) = .ok a ↔ ¬ c ∧ k () = .ok a := by
  by_cases h : c
  · rw [if_pos h]
    constructor
    · rintro ⟨⟩
    · rintro ⟨hc, _⟩
      exact absurd h hc
  · rw [if_neg h, and_iff_right h]

theorem mapM_eq_ok_iff (f : α → Except ε β) : ∀ (xs : List α) (ys : List β),
    xs.mapM f = .ok ys ↔ List.Forall₂ (fun x y => f x = .ok y) xs ys
  | [], ys => by rw [List.mapM_nil, List.forall₂_nil_left_iff, pure_eq_ok_iff]
  | x :: rest, ys => by
    simp only [List.mapM_cons, List.forall₂_cons_left_iff, bind_eq_ok_iff, pure_eq_ok_iff,
      mapM_eq_ok_iff f rest]
    constructor
    · rintro ⟨y, hy, zs, hzs, rfl⟩
      exact ⟨y, zs, hy, hzs, rfl⟩
    · rintro ⟨y, zs, hy, hzs, rfl⟩
      exact ⟨y, hy, zs, hzs, rfl⟩

theorem exists_mapM_eq_ok_iff (f : α → Except ε β) : ∀ xs : List α,
    (∃ ys, xs.mapM f = .ok ys) ↔ ∀ x ∈ xs, ∃ y, f x = .ok y
  | [] => ⟨fun _ => nofun, fun _ => ⟨[], rfl⟩⟩
  | x :: rest => by
    simp only [List.mapM_cons, bind_eq_ok_iff, pure_eq_ok_iff, List.forall_mem_cons,
      ← exists_mapM_eq_ok_iff f rest]
    constructor
    · rintro ⟨_, y, hy, ys, hys, -⟩
      exact ⟨⟨y, hy⟩, ys, hys⟩
    · rintro ⟨⟨y, hy⟩, ys, hys⟩
      exact ⟨y :: ys, y, hy, ys, hys, rfl⟩

/-- **The first attempt that fails ends the row.** -/
theorem mapM_eq_error_iff (f : α → Except ε β) (e : ε) : ∀ xs : List α,
    xs.mapM f = .error e ↔
      ∃ before x after, xs = before ++ x :: after ∧ (∀ y ∈ before, ∃ b, f y = .ok b) ∧
        f x = .error e
  | [] => by
    constructor
    · rintro ⟨⟩
    · rintro ⟨before, x, after, h, _⟩
      cases before <;> cases h
  | x :: rest => by
    simp only [List.mapM_cons, bind_eq_error_iff, pure_ne_error, and_false, exists_const, or_false,
      mapM_eq_error_iff f e rest]
    constructor
    · rintro (hx | ⟨b, hb, before, y, after, rfl, hbefore, hy⟩)
      · exact ⟨[], x, rest, rfl, fun y hy => (List.not_mem_nil hy).elim, hx⟩
      · exact ⟨x :: before, y, after, rfl, List.forall_mem_cons.2 ⟨⟨b, hb⟩, hbefore⟩, hy⟩
    · rintro ⟨before, y, after, h, hbefore, hy⟩
      cases before with
      | nil =>
        cases h
        exact Or.inl hy
      | cons z before =>
        cases h
        obtain ⟨⟨b, hb⟩, hbefore⟩ := List.forall_mem_cons.1 hbefore
        exact Or.inr ⟨b, hb, before, y, after, rfl, hbefore, hy⟩

/-! ## Attempts that are alike -/

inductive Alike (R : α → β → Prop) : Except ε α → Except ε β → Prop where
  | ok {a : α} {b : β} (h : R a b) : Alike R (.ok a) (.ok b)
  | error (e : ε) : Alike R (.error e) (.error e)

namespace Alike

variable {γ δ : Type} {R : α → β → Prop} {S : γ → δ → Prop}

theorem bind {x : Except ε α} {y : Except ε β} {f : α → Except ε γ} {g : β → Except ε δ}
    (h : Alike R x y) (hfg : ∀ a b, R a b → Alike S (f a) (g b)) : Alike S (x >>= f) (y >>= g) := by
  cases h with
  | ok h => exact hfg _ _ h
  | error e => exact .error e

theorem same_bind {x : Except ε α} {f : α → Except ε γ} {g : α → Except ε δ}
    (h : ∀ a, Alike S (f a) (g a)) : Alike S (x >>= f) (x >>= g) := by
  cases x with
  | ok a => exact h a
  | error e => exact .error e

theorem mono {T : α → β → Prop} {x : Except ε α} {y : Except ε β} (h : Alike R x y)
    (hRT : ∀ a b, R a b → T a b) : Alike T x y := by
  cases h with
  | ok h => exact .ok (hRT _ _ h)
  | error e => exact .error e

theorem rfl_of {T : α → α → Prop} (hT : ∀ a, T a a) : ∀ x : Except ε α, Alike T x x
  | .ok a => .ok (hT a)
  | .error e => .error e

end Alike
end Attempt
end ApiTypes
