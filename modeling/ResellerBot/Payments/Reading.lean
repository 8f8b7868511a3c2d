import ResellerBot.Payments.Request

/-!
# ResellerBot.Payments.Reading — the bodies that `json.loads` reads

A body is read unless it is nested too deep or has an integer with too many digits; then the handler
fails before it has looked at anything.
-/

namespace ResellerBot

mutual

/-- Somewhere in the value an integer has more than 4300 digits. -/
def JsonSource.hasLongInt : JsonSource → Bool
  | .int n => 10 ^ 4300 ≤ n.natAbs
  | .array items => hasLongIntItems items
  | .object members => hasLongIntMembers members
  | .null | .bool _ | .float _ _ _ | .text _ => false

def hasLongIntItems : List JsonSource → Bool
  | [] => false
  | x :: xs => x.hasLongInt || hasLongIntItems xs

def hasLongIntMembers : List (PyText × JsonSource) → Bool
  | [] => false
  | (_, x) :: ms => x.hasLongInt || hasLongIntMembers ms

end

mutual

/-- How many arrays and objects stand in one another. -/
def JsonSource.depth : JsonSource → ℕ
  | .array items => sourceDepthItems items + 1
  | .object members => sourceDepthMembers members + 1
  | .null | .bool _ | .int _ | .float _ _ _ | .text _ => 0

def sourceDepthItems : List JsonSource → ℕ
  | [] => 0
  | x :: xs => max x.depth (sourceDepthItems xs)

def sourceDepthMembers : List (PyText × JsonSource) → ℕ
  | [] => 0
  | (_, x) :: ms => max x.depth (sourceDepthMembers ms)

end

/-! ## What is read -/

/-- An exception that is not a response. -/
def Err.Unhandled (e : Err) : Prop := ∀ code, e.kind ≠ .http code

/-- A step succeeds if this holds, and fails with an unhandled exception if it does not. -/
def OkIff {α : Type} (r : Except Err α) (P : Prop) : Prop :=
  (P ∧ ∃ a, r = .ok a) ∨ (¬P ∧ ∃ e, r = .error e ∧ e.Unhandled)

section OkIff

variable {α β : Type} {r : Except Err α} {P Q : Prop} {f : α → Except Err β}

theorem OkIff.bind (hr : OkIff r P) (hf : ∀ a, OkIff (f a) Q) : OkIff (r >>= f) (P ∧ Q) := by
  obtain ⟨hp, a, rfl⟩ | ⟨hp, e, rfl, he⟩ := hr
  · obtain ⟨hq, b, hb⟩ | ⟨hq, e, he⟩ := hf a
    · exact .inl ⟨⟨hp, hq⟩, b, hb⟩
    · exact .inr ⟨fun h => hq h.2, e, he⟩
  · exact .inr ⟨fun h => hp h.1, e, rfl, he⟩

theorem OkIff.map {g : α → β} (hr : OkIff r P) : OkIff (r >>= fun a => pure (g a)) P := by
  obtain ⟨hp, a, rfl⟩ | ⟨hp, e, rfl, he⟩ := hr
  · exact .inl ⟨hp, g a, rfl⟩
  · exact .inr ⟨hp, e, rfl, he⟩

theorem OkIff.congr (hr : OkIff r P) (h : P ↔ Q) : OkIff r Q := by
  obtain rfl : P = Q := propext h
  exact hr

theorem OkIff.pure {a : α} : OkIff (.ok a : Except Err α) True := .inl ⟨trivial, a, rfl⟩

end OkIff

theorem okIff_loadsInt (n : ℤ) : OkIff (loadsInt n) (¬10 ^ 4300 ≤ n.natAbs) := by
  unfold loadsInt
  split_ifs with h
  · exact .inr ⟨not_not.mpr h, _, rfl, by rintro _ ⟨⟩⟩
  · exact .inl ⟨h, _, rfl⟩

mutual

/-- What `json.loads` takes. -/
theorem JsonSource.okIff_loads (x : JsonSource) (room : ℕ) :
    OkIff (x.loads room) (x.depth ≤ room ∧ x.hasLongInt = false) := by
  cases x with
  | null | bool _ | float _ _ _ | text _ =>
    exact OkIff.pure.congr (iff_of_true trivial ⟨Nat.zero_le _, rfl⟩)
  | int n =>
    refine (okIff_loadsInt n).congr ?_
    rw [JsonSource.hasLongInt, decide_eq_false_iff_not]
    exact (and_iff_right (Nat.zero_le _)).symm
  | array items =>
    cases room with
    | zero => exact .inr ⟨fun h => absurd h.1 (Nat.not_succ_le_zero _), _, rfl, by rintro _ ⟨⟩⟩
    | succ room =>
      exact (okIff_loadsItems items room).map.congr
        (and_congr_left fun _ => Nat.succ_le_succ_iff.symm)
  | object members =>
    cases room with
    | zero => exact .inr ⟨fun h => absurd h.1 (Nat.not_succ_le_zero _), _, rfl, by rintro _ ⟨⟩⟩
    | succ room =>
      exact (okIff_loadsMembers [] members room).map.congr
        (and_congr_left fun _ => Nat.succ_le_succ_iff.symm)

theorem okIff_loadsItems (xs : List JsonSource) (room : ℕ) :
    OkIff (loadsItems xs room) (sourceDepthItems xs ≤ room ∧ hasLongIntItems xs = false) := by
  cases xs with
  | nil => exact OkIff.pure.congr (iff_of_true trivial ⟨Nat.zero_le _, rfl⟩)
  | cons x xs =>
    refine ((x.okIff_loads room).bind fun v => (okIff_loadsItems xs room).map).congr ?_
    rw [sourceDepthItems, hasLongIntItems, max_le_iff, Bool.or_eq_false_iff]
    exact and_and_and_comm

theorem okIff_loadsMembers (entries : List (PyText × Json)) (ms : List (PyText × JsonSource))
    (room : ℕ) : OkIff (loadsMembers entries ms room)
      (sourceDepthMembers ms ≤ room ∧ hasLongIntMembers ms = false) := by
  match ms with
  | [] => exact OkIff.pure.congr (iff_of_true trivial ⟨Nat.zero_le _, rfl⟩)
  | (key, x) :: ms =>
    refine ((x.okIff_loads room).bind fun v =>
      okIff_loadsMembers (setKey entries key v) ms room).congr ?_
    rw [sourceDepthMembers, hasLongIntMembers, max_le_iff, Bool.or_eq_false_iff]
    exact and_and_and_comm

end

end ResellerBot
