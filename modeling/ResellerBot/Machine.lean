import Mathlib.Data.List.Basic

/-!
# ResellerBot.Machine — runs of a deterministic machine

A step function, the state after a list of events, and what holds of every step of a run.  Nothing
of the modelled program is named here.
-/

namespace Machine

variable {S E : Type} (step : S → E → S)

/-- The state after the events. -/
def run (s : S) (es : List E) : S := es.foldl step s

/-- `P` holds of every event of the run, in the state that the event meets. -/
def Always (P : S → E → Prop) : S → List E → Prop
  | _, [] => True
  | s, e :: es => P s e ∧ Always P (step s e) es

variable {step} {I : S → Prop} {P Q : S → E → Prop} {s : S} {es : List E}

theorem run_append (s : S) (es es' : List E) :
    run step s (es ++ es') = run step (run step s es) es' :=
  List.foldl_append

/-- An invariant that every step keeps. -/
theorem run_inv (keep : ∀ s e, I s → I (step s e)) (hs : I s) : I (run step s es) := by
  induction es generalizing s with
  | nil => exact hs
  | cons e es ih => exact ih (keep s e hs)

/-- An invariant that the steps keep as long as `P` holds of them. -/
theorem Always.run (keep : ∀ s e, I s → P s e → I (step s e)) (hs : I s)
    (h : Always step P s es) : I (run step s es) := by
  induction es generalizing s with
  | nil => exact hs
  | cons e es ih => exact ih (keep s e hs h.1) h.2

/-- Two properties that agree wherever an invariant holds, which either keeps. -/
theorem always_congr (keep : ∀ s e, I s → P s e → I (step s e))
    (agree : ∀ s e, I s → (P s e ↔ Q s e)) (hs : I s) :
    Always step P s es ↔ Always step Q s es := by
  induction es generalizing s with
  | nil => exact Iff.rfl
  | cons e es ih =>
    constructor
    · intro h
      have := keep s e hs h.1
      exact ⟨(agree s e hs).mp h.1, (ih this).mp h.2⟩
    · intro h
      have hp := (agree s e hs).mpr h.1
      exact ⟨hp, (ih (keep s e hs hp)).mpr h.2⟩

/-- Two properties that agree on the events of the run, in whatever state. -/
theorem always_congr_of_mem (agree : ∀ e ∈ es, ∀ s, P s e ↔ Q s e) :
    Always step P s es ↔ Always step Q s es := by
  induction es generalizing s with
  | nil => exact Iff.rfl
  | cons e es ih =>
    rw [List.forall_mem_cons] at agree
    exact and_congr (agree.1 s) (ih agree.2)

theorem always_append {es' : List E} : Always step P s (es ++ es') ↔
    Always step P s es ∧ Always step P (Machine.run step s es) es' := by
  induction es generalizing s with
  | nil => exact (and_iff_right trivial).symm
  | cons e es ih =>
    rw [List.cons_append, Always, ih, Always, and_assoc]
    rfl

/-- What holds of every event, after the events before it. -/
theorem always_iff_forall : Always step P s es ↔
    ∀ before e after, es = before ++ e :: after → P (Machine.run step s before) e := by
  induction es generalizing s with
  | nil =>
    refine iff_of_true trivial fun before e after h => ?_
    exact absurd h.symm (List.append_ne_nil_of_right_ne_nil before (List.cons_ne_nil e after))
  | cons e₀ es ih =>
    rw [Always, ih]
    constructor
    · rintro ⟨h₀, h⟩ before e after heq
      cases before with
      | nil =>
        obtain ⟨rfl, rfl⟩ := List.cons.inj heq
        exact h₀
      | cons e' before =>
        obtain ⟨rfl, rfl⟩ := List.cons.inj heq
        exact h before e after rfl
    · intro h
      exact ⟨h [] e₀ es rfl, fun before e after heq => h (e₀ :: before) e after (heq ▸ rfl)⟩

/-- What holds once it has come about: at the beginning, or by an event of the run. -/
theorem run_iff_exists {F : S → Prop} (keep : ∀ s e, I s → P s e → I (step s e))
    (born : ∀ s e, I s → P s e → (F (step s e) ↔ F s ∨ Q s e)) (hs : I s)
    (h : Always step P s es) : F (Machine.run step s es) ↔
      F s ∨ ∃ before e after, es = before ++ e :: after ∧ Q (Machine.run step s before) e := by
  induction es generalizing s with
  | nil =>
    refine (or_iff_left ?_).symm
    rintro ⟨before, e, after, heq, -⟩
    exact absurd heq.symm (List.append_ne_nil_of_right_ne_nil before (List.cons_ne_nil e after))
  | cons e₀ es ih =>
    rw [Machine.run, List.foldl_cons]
    refine (ih (keep s e₀ hs h.1) h.2).trans ?_
    rw [born s e₀ hs h.1, or_assoc]
    refine or_congr_right ⟨?_, ?_⟩
    · rintro (hq | ⟨before, e, after, rfl, hq⟩)
      · exact ⟨[], e₀, es, rfl, hq⟩
      · exact ⟨e₀ :: before, e, after, rfl, hq⟩
    · rintro ⟨before, e, after, heq, hq⟩
      cases before with
      | nil =>
        obtain ⟨rfl, rfl⟩ := List.cons.inj heq
        exact .inl hq
      | cons e' before =>
        obtain ⟨rfl, rfl⟩ := List.cons.inj heq
        exact .inr ⟨before, e, after, rfl, hq⟩

end Machine
