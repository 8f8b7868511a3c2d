import Mathlib.Data.Nat.Notation
import Mathlib.Data.List.Basic

/-!
# ResellerBot.Growth — values and lists of rows that change in one direction

A column *moves* into `S` if it stays as it is or ends in `S`; a list is *grown* if its rows are
still in their places, each changed as a relation allows, with others behind them.  Nothing of the
modelled program is named here.
-/

namespace Growth

variable {α β : Type}

/-! ## Values -/

/-- The value is the same, or a new one in `S`. -/
def Moves (S : α → Prop) (old new : α) : Prop := new = old ∨ S new

section Moves

variable {S : α → Prop} {a b c : α}

theorem Moves.refl (a : α) : Moves S a a := .inl rfl

theorem Moves.of_eq (h : b = a) : Moves S a b := .inl h

theorem Moves.trans (h : Moves S a b) (h' : Moves S b c) : Moves S a c := by
  rcases h' with rfl | h'
  · exact h
  · exact .inr h'

/-- What is in `S` stays in `S`. -/
theorem Moves.keep (h : Moves S a b) (ha : S a) : S b := by
  rcases h with rfl | h
  · exact ha
  · exact h

end Moves

/-! ## Lists of rows -/

/-- Every row is still in its place, changed as `R` allows; others may have come behind them. -/
def Grown (R : α → α → Prop) (l l' : List α) : Prop :=
  ∀ i : ℕ, ∀ a, l[i]? = some a → ∃ a', l'[i]? = some a' ∧ R a a'

section Grown

variable {R : α → α → Prop} {l l' l'' : List α}

theorem Grown.refl (hR : ∀ a, R a a) (l : List α) : Grown R l l :=
  fun _ a ha => ⟨a, ha, hR a⟩

theorem Grown.trans (hR : ∀ a b c, R a b → R b c → R a c) (h : Grown R l l')
    (h' : Grown R l' l'') : Grown R l l'' := by
  intro i a ha
  obtain ⟨b, hb, hab⟩ := h i a ha
  obtain ⟨c, hc, hbc⟩ := h' i b hb
  exact ⟨c, hc, hR a b c hab hbc⟩

theorem Grown.append (hR : ∀ a, R a a) (l added : List α) : Grown R l (l ++ added) := by
  intro i a ha
  obtain ⟨hi, rfl⟩ := List.getElem?_eq_some_iff.mp ha
  exact ⟨l[i], by rw [List.getElem?_append_left hi]; exact ha, hR _⟩

theorem Grown.map {f : α → α} (hf : ∀ a ∈ l, R a (f a)) : Grown R l (l.map f) := by
  intro i a ha
  refine ⟨f a, ?_, hf a (List.mem_of_getElem? ha)⟩
  rw [List.getElem?_map, ha]
  rfl

/-- A row is found again, changed as `R` allows. -/
theorem Grown.mem (h : Grown R l l') {a : α} (ha : a ∈ l) : ∃ a' ∈ l', R a a' := by
  obtain ⟨i, hi⟩ := List.mem_iff_getElem?.mp ha
  obtain ⟨a', ha', hR⟩ := h i a hi
  exact ⟨a', List.mem_of_getElem? ha', hR⟩

end Grown

end Growth
