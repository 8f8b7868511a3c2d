import Mathlib.Data.List.TakeWhile

/-!
# ResellerBot.Codes — codes whose words can be told apart

A code gives a word for each value.  Where the first word of a text can always be split off, what
follows it included, two texts that agree stand for the same values.  Nothing of the modelled program
is named here.
-/

namespace Codes

variable {α β Γ : Type}

/-- The word of a value within `P` can be split off a text that goes on as `D` allows. -/
def Decipherable (P : α → Prop) (D : List Γ → Prop) (f : α → List Γ) : Prop :=
  ∀ a b, P a → P b → ∀ r s, D r → D s → f a ++ r = f b ++ s → a = b ∧ r = s

/-- No word is the beginning of another one. -/
def PrefixFree (f : α → List Γ) : Prop := ∀ a b r s, f a ++ r = f b ++ s → a = b ∧ r = s

/-- A code with a reader of its first word. -/
theorem PrefixFree.of_read {f : α → List Γ} (read : List Γ → Option (α × List Γ))
    (h : ∀ a r, read (f a ++ r) = some (a, r)) : PrefixFree f := by
  intro a b r s heq
  have hread : some (a, r) = some (b, s) := by rw [← h, heq, h]
  cases hread
  exact ⟨rfl, rfl⟩

/-- A sequence of words that ends with a mark which begins no word. -/
theorem PrefixFree.flatMap {f : α → List Γ} (hf : PrefixFree f) {mark : Γ}
    (hmark : ∀ a r s, f a ++ r ≠ mark :: s) :
    PrefixFree fun l : List α => l.flatMap f ++ [mark] := by
  intro l l' r s h
  rw [List.append_assoc, List.append_assoc, List.singleton_append, List.singleton_append] at h
  induction l generalizing l' with
  | nil =>
    cases l' with
    | nil => exact ⟨rfl, (List.cons.inj h).2⟩
    | cons b l' =>
      rw [List.flatMap_cons, List.append_assoc] at h
      exact absurd h.symm (hmark _ _ _)
  | cons a l ih =>
    cases l' with
    | nil =>
      rw [List.flatMap_cons, List.append_assoc] at h
      exact absurd h (hmark _ _ _)
    | cons b l' =>
      rw [List.flatMap_cons, List.flatMap_cons, List.append_assoc, List.append_assoc] at h
      obtain ⟨rfl, hrest⟩ := hf _ _ _ _ h
      obtain ⟨rfl, rfl⟩ := ih _ hrest
      exact ⟨rfl, rfl⟩

/-- The text does not go on with a character of `K`. -/
def Stops (K : Γ → Bool) (r : List Γ) : Prop := ∀ c ∈ r.head?, K c = false

theorem takeWhile_of_stops {K : Γ → Bool} {a r : List Γ} (ha : ∀ c ∈ a, K c = true)
    (hr : Stops K r) : (a ++ r).takeWhile K = a := by
  have hnil : r.takeWhile K = [] := by
    cases r with
    | nil => rfl
    | cons c r =>
      rw [List.takeWhile_cons, hr c rfl]
      rfl
  rw [List.takeWhile_append_of_pos ha, hnil, List.append_nil]

/-- A word of characters of `K` is read until they stop. -/
theorem decipherable_stops (K : Γ → Bool) :
    Decipherable (fun a : List Γ => ∀ c ∈ a, K c = true) (Stops K) id := by
  intro a b ha hb r s hr hs h
  rw [id, id] at h
  have hab : a = b := by rw [← takeWhile_of_stops ha hr, h, takeWhile_of_stops hb hs]
  subst hab
  exact ⟨rfl, List.append_cancel_left h⟩

end Codes
