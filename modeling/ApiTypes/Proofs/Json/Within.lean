import ApiTypes.Document
import ApiTypes.Proofs.Attempt
/-!
# What a document that was read is like

Whatever a reader makes of a text, its integers fit 64 bits, no object has two members with one key,
and no more containers stand in each other than may be open at once (`within_of_readValue`).  Each
reader is proved to give such values on the assumption that the readers inside it do.
-/
namespace ApiTypes
namespace Json

/-- Integers fit 64 bits, no key stands twice in an object, and at most so many containers stand in
each other. -/
inductive Within : (depth : Nat) → Json → Prop where
  | null (depth : Nat) : Within depth .null
  | bool (depth : Nat) (b : Bool) : Within depth (.bool b)
  | int (depth : Nat) {n : Int} (hlow : -(twoTo 63 : Int) ≤ n) (hhigh : n < twoTo 64) :
    Within depth (.int n)
  | double (depth : Nat) (x : Double) : Within depth (.double x)
  | str (depth : Nat) (t : Text) : Within depth (.str t)
  | arr {depth : Nat} {items : List Json} (h : ∀ v ∈ items, Within depth v) :
    Within (depth + 1) (.arr items)
  | obj {depth : Nat} {members : List (Text × Json)} (hkeys : (members.map Prod.fst).Nodup)
    (h : ∀ m ∈ members, Within depth m.2) : Within (depth + 1) (.obj members)

def Gives {α : Type} (read : Reader α) (P : α → Prop) : Prop :=
  ∀ t a rest, read t = .ok (a, rest) → P a

theorem stopAt_ne_ok {α : Type} {cause : Malformation} {rest : Text} {a : α} :
    stopAt cause rest ≠ .ok a := nofun

theorem stopBefore_ne_ok {α : Type} {cause : Malformation} {rest : Text} {a : α} :
    stopBefore cause rest ≠ .ok a := nofun

variable {depth : Nat} {item : Reader Json}

/-! ## Numbers -/

theorem takeDigits_lt {limit : Nat} : ∀ (t : Text) (value count : Nat), value < limit →
    (takeDigits limit value count t).1 < limit
  | [], _, _, h => h
  | c :: rest, value, count, h => by
    rw [takeDigits]
    split
    · rename_i hc
      exact takeDigits_lt rest _ _ hc.2
    · exact h

theorem gives_doubleOf (negative : Bool) (significand : Nat) (exponent : Int) :
    Gives (doubleOf negative significand exponent) (Within depth) := by
  intro t v rest h
  unfold doubleOf at h
  split at h
  · cases h
    exact .double _ _
  · exact absurd h stopBefore_ne_ok

theorem gives_readExponent (negative : Bool) (significand : Nat) (exponent : Int) :
    Gives (readExponent negative significand exponent) (Within depth) := by
  intro t v rest h
  unfold readExponent at h
  split at h
  split at h
  · exact absurd h stopAt_ne_ok
  · split at h
    · dsimp only at h
      split at h
      -- an exponent beyond its limit makes a zero, or no number at all
      · split at h
        · split at h
          · cases h
            exact .double _ _
          · exact absurd h stopBefore_ne_ok
        · exact gives_doubleOf _ _ _ _ _ _ h
      · exact gives_doubleOf _ _ _ _ _ _ h
    · exact absurd h stopAt_ne_ok

theorem gives_readFraction (negative : Bool) (significand : Nat) (exponent : Int) :
    Gives (readFraction negative significand exponent) (Within depth) := by
  intro t v rest h
  unfold readFraction at h
  split at h
  · exact absurd h stopAt_ne_ok
  · split at h
    · unfold readDoubleEnd at h
      dsimp only at h
      split at h
      · exact gives_readExponent _ _ _ _ _ _ h
      · exact gives_readExponent _ _ _ _ _ _ h
      · exact gives_doubleOf _ _ _ _ _ _ h
    · exact absurd h stopAt_ne_ok

theorem gives_integerOf (negative : Bool) {n : Nat} (hn : n < significandLimit) :
    Gives (integerOf negative n) (Within depth) := by
  have hlimit : n < twoTo 64 := hn
  have hbits : twoTo 63 = 2 ^ 63 ∧ twoTo 64 = 2 ^ 64 := ⟨rfl, rfl⟩
  intro t v rest h
  unfold integerOf at h
  split at h
  · cases h
    exact .int _ (by omega) (by omega)
  · split at h
    · exact gives_doubleOf _ _ _ _ _ _ h
    · rename_i hsmall
      have hsmall : ¬ (n = 0 ∨ twoTo 63 < n) := hsmall
      cases h
      exact .int _ (by omega) (by omega)

theorem gives_readNumber (negative : Bool) : Gives (readNumber negative) (Within depth) := by
  intro t v rest h
  unfold readNumber at h
  split at h
  · exact absurd h stopAt_ne_ok
  · split at h
    · exact absurd h stopAt_ne_ok
    · split at h
      · exact absurd h stopAt_ne_ok
      · rename_i c rest' _ _
        have hlimit : (takeDigits significandLimit 0 0 (c :: rest')).1 < significandLimit :=
          takeDigits_lt (c :: rest') 0 0 (by decide)
        dsimp only at h
        split at h
        · exact gives_readFraction _ _ _ _ _ _ h
        · exact gives_readExponent _ _ _ _ _ _ h
        · exact gives_readExponent _ _ _ _ _ _ h
        · split at h
          · exact gives_integerOf negative hlimit _ _ _ h
          · exact gives_doubleOf _ _ _ _ _ _ h

/-! ## Words and strings -/

theorem gives_readWord {value : Json} (hvalue : Within depth value) :
    ∀ letters, Gives (readWord value letters) (Within depth)
  | [], t, v, rest, h => by
    cases h
    exact hvalue
  | l :: letters, t, v, rest, h => by
    cases t with
    | nil => exact absurd h stopAt_ne_ok
    | cons c t =>
      rw [readWord] at h
      split at h
      · exact gives_readWord hvalue letters _ _ _ h
      · exact absurd h stopAt_ne_ok

theorem gives_readScalar : Gives readScalar (Within depth) := by
  intro t v rest h
  unfold readScalar at h
  split at h
  · exact absurd h stopAt_ne_ok
  · exact gives_readWord (.null _) _ _ _ _ h
  · exact gives_readWord (.bool _ _) _ _ _ _ h
  · exact gives_readWord (.bool _ _) _ _ _ _ h
  · exact gives_readNumber _ _ _ _ h
  · obtain ⟨_, _, h⟩ := Attempt.bind_eq_ok_iff.1 h
    cases h
    exact .str _ _
  · split at h
    · exact gives_readNumber _ _ _ _ h
    · exact absurd h stopAt_ne_ok

/-! ## Lists -/

theorem gives_readItems {P : Json → Prop} (hitem : Gives item P) : ∀ (steps : Nat) (done : List Json),
    (∀ v ∈ done, P v) → Gives (readItems item steps done) (fun items => ∀ v ∈ items, P v)
  | 0, _, _, _, _, _, h => absurd h stopAt_ne_ok
  | steps + 1, done, hdone, t, items, rest, h => by
    obtain ⟨⟨v, rest'⟩, hv, h⟩ := Attempt.bind_eq_ok_iff.1 h
    have hdone' : ∀ w ∈ v :: done, P w :=
      List.forall_mem_cons.2 ⟨hitem _ _ _ hv, hdone⟩
    dsimp only at h
    split at h
    · exact absurd h stopAt_ne_ok
    · cases h
      exact fun w hw => hdone' w (List.mem_reverse.1 hw)
    · split at h
      · exact absurd h stopAt_ne_ok
      · exact absurd h stopAt_ne_ok
      · exact gives_readItems hitem steps _ hdone' _ _ _ h
    · exact absurd h stopAt_ne_ok

theorem gives_readList (hitem : Gives item (Within depth)) :
    Gives (readList item) (Within (depth + 1)) := by
  intro t v rest h
  unfold readList at h
  split at h
  · exact absurd h stopAt_ne_ok
  · cases h
    exact .arr (List.forall_mem_nil _)
  · obtain ⟨⟨items, rest'⟩, hitems, h⟩ := Attempt.bind_eq_ok_iff.1 h
    cases h
    exact .arr (gives_readItems hitem _ _ (List.forall_mem_nil _) _ _ _ hitems)

/-! ## Objects -/

/-- **A key that comes again keeps its place.** -/
theorem map_fst_insertMember (key : Text) (value : Json) : ∀ members : List (Text × Json),
    (insertMember key value members).map Prod.fst =
      if key ∈ members.map Prod.fst then members.map Prod.fst else members.map Prod.fst ++ [key]
  | [] => by simp [insertMember]
  | (k, v) :: rest => by
    rw [insertMember]
    by_cases h : k = key
    · simp [h]
    · have hne : ¬ key = k := fun hkey => h hkey.symm
      simp only [if_neg h, List.map_cons, map_fst_insertMember key value rest, List.mem_cons, hne,
        false_or]
      split <;> simp

theorem nodup_insertMember {key : Text} {value : Json} {members : List (Text × Json)}
    (h : (members.map Prod.fst).Nodup) : ((insertMember key value members).map Prod.fst).Nodup := by
  rw [map_fst_insertMember]
  split
  · exact h
  · rename_i hkey
    refine List.nodup_append.2 ⟨h, by simp, fun a ha b hb hab => ?_⟩
    rw [List.mem_singleton.1 hb] at hab
    exact hkey (hab ▸ ha)

theorem forall_mem_insertMember {P : Json → Prop} {key : Text} {value : Json} (hvalue : P value) :
    ∀ {members : List (Text × Json)}, (∀ m ∈ members, P m.2) →
      ∀ m ∈ insertMember key value members, P m.2
  | [], _, m, hm => by
    rw [List.mem_singleton.1 hm]
    exact hvalue
  | (k, v) :: rest, h, m, hm => by
    obtain ⟨hv, hrest⟩ := List.forall_mem_cons.1 h
    rw [insertMember] at hm
    split at hm
    · rcases List.mem_cons.1 hm with rfl | hm
      · exact hvalue
      · exact hrest m hm
    · rcases List.mem_cons.1 hm with rfl | hm
      · exact hv
      · exact forall_mem_insertMember hvalue hrest m hm

theorem gives_readMember {P : Json → Prop} (hitem : Gives item P) :
    Gives (readMember item) (fun m => P m.2) := by
  intro t m rest h
  unfold readMember at h
  split at h
  · obtain ⟨⟨key, rest'⟩, _, h⟩ := Attempt.bind_eq_ok_iff.1 h
    dsimp only at h
    split at h
    · exact absurd h stopAt_ne_ok
    · obtain ⟨⟨v, rest''⟩, hv, h⟩ := Attempt.bind_eq_ok_iff.1 h
      cases h
      exact hitem _ _ _ hv
    · exact absurd h stopAt_ne_ok
  · exact absurd h stopAt_ne_ok

structure Distinct (P : Json → Prop) (members : List (Text × Json)) : Prop where
  keys : (members.map Prod.fst).Nodup
  values : ∀ m ∈ members, P m.2

theorem gives_readMembers {P : Json → Prop} (hitem : Gives item P) :
    ∀ (steps : Nat) (done : List (Text × Json)), Distinct P done →
      Gives (readMembers item steps done) (Distinct P)
  | 0, _, _, _, _, _, h => absurd h stopAt_ne_ok
  | steps + 1, done, hdone, t, members, rest, h => by
    obtain ⟨⟨⟨key, v⟩, rest'⟩, hm, h⟩ := Attempt.bind_eq_ok_iff.1 h
    have hdone' : Distinct P (insertMember key v done) :=
      ⟨nodup_insertMember hdone.keys,
        forall_mem_insertMember (gives_readMember hitem _ _ _ hm) hdone.values⟩
    dsimp only at h
    split at h
    · exact absurd h stopAt_ne_ok
    · cases h
      exact hdone'
    · split at h
      · exact absurd h stopAt_ne_ok
      · exact absurd h stopAt_ne_ok
      · exact gives_readMembers hitem steps _ hdone' _ _ _ h
    · exact absurd h stopAt_ne_ok

theorem gives_readObject (hitem : Gives item (Within depth)) :
    Gives (readObject item) (Within (depth + 1)) := by
  intro t v rest h
  unfold readObject at h
  split at h
  · exact absurd h stopAt_ne_ok
  · cases h
    exact .obj List.nodup_nil (List.forall_mem_nil _)
  · obtain ⟨⟨members, rest'⟩, hmembers, h⟩ := Attempt.bind_eq_ok_iff.1 h
    cases h
    have hdistinct :=
      gives_readMembers hitem _ [] ⟨List.nodup_nil, List.forall_mem_nil _⟩ _ _ _ hmembers
    exact .obj hdistinct.keys hdistinct.values

/-! ## Documents -/

/-- **What reading a value gives.** -/
theorem gives_readValue : ∀ depth, Gives (readValue depth) (Within depth)
  | 0, t, v, rest, h => by
    rw [readValue] at h
    split at h
    · exact absurd h stopAt_ne_ok
    · exact absurd h stopAt_ne_ok
    · exact gives_readScalar _ _ _ h
  | depth + 1, t, v, rest, h => by
    rw [readValue] at h
    split at h
    · exact gives_readList (gives_readValue depth) _ _ _ h
    · exact gives_readObject (gives_readValue depth) _ _ _ h
    · exact gives_readScalar _ _ _ h

end Json

theorem Document.within_of_parse {t : Text} {v : Json} (h : Document.parse t = .ok v) :
    v.Within Json.depthLimit := by
  unfold Document.parse Json.parse at h
  cases hread : Json.readDocument t with
  | error stop =>
    rw [hread] at h
    cases h
  | ok v' =>
    rw [hread] at h
    cases h
    obtain ⟨⟨v', rest⟩, hvalue, hrest⟩ := Attempt.bind_eq_ok_iff.1 hread
    dsimp only at hrest
    split at hrest
    · cases hrest
      exact Json.gives_readValue _ _ _ _ hvalue
    · exact absurd hrest Json.stopAt_ne_ok

end ApiTypes
