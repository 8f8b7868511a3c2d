import Mathlib.Data.List.Basic
import Mathlib.Data.List.Induction
import Mathlib.Tactic.Tauto

/-!
# ResellerBot.Since — what a log says since an event

`Since P Q l`: the log `l` has an entry with `P`, and every entry after it has `Q`.
-/

namespace Interact

variable {ρ : Type*} {P P' Q Q' : ρ → Prop} {l l' : List ρ} {r : ρ}

def Since (P Q : ρ → Prop) (l : List ρ) : Prop :=
  ∃ l₁ r l₂, l = l₁ ++ r :: l₂ ∧ P r ∧ ∀ x ∈ l₂, Q x

theorem not_since_nil : ¬Since P Q [] := by
  rintro ⟨l₁, r, l₂, h, -⟩
  exact absurd h.symm (by simp)

/-- The last entry is the event, or the event was before it. -/
theorem since_concat : Since P Q (l ++ [r]) ↔ P r ∨ Since P Q l ∧ Q r := by
  constructor
  · rintro ⟨l₁, x, l₂, h, hp, hq⟩
    rcases List.eq_nil_or_concat' l₂ with rfl | ⟨l₃, y, rfl⟩
    · obtain ⟨-, hx⟩ := List.append_inj' h rfl
      cases hx
      exact .inl hp
    · rw [← List.cons_append, ← List.append_assoc] at h
      obtain ⟨rfl, hx⟩ := List.append_inj' h rfl
      cases hx
      exact .inr ⟨⟨l₁, x, l₃, rfl, hp, fun z hz => hq z (List.mem_append_left _ hz)⟩,
        hq _ (List.mem_append_right _ (List.mem_singleton_self _))⟩
  · rintro (hp | ⟨⟨l₁, x, l₂, rfl, hp, hq⟩, hr⟩)
    · exact ⟨l, r, [], rfl, hp, fun _ hx => nomatch hx⟩
    · refine ⟨l₁, x, l₂ ++ [r], by simp, hp, fun z hz => ?_⟩
      rcases List.mem_append.mp hz with hz | hz
      · exact hq z hz
      · obtain rfl := List.mem_singleton.mp hz
        exact hr

/-- The event is in the second part of the log, or in the first with nothing against it in the
second. -/
theorem since_append : Since P Q (l ++ l') ↔ Since P Q l' ∨ Since P Q l ∧ ∀ x ∈ l', Q x := by
  induction l' using List.reverseRecOn with
  | nil => simp [not_since_nil]
  | append_singleton l' r ih =>
    rw [← List.append_assoc, since_concat, since_concat, ih]
    simp only [List.mem_append, List.mem_singleton, or_imp, forall_and, forall_eq]
    tauto

end Interact
