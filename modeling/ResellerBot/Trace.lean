import ResellerBot.Interact
import Mathlib.Data.List.Basic

/-!
# ResellerBot.Trace — the exchanges of a run

What a program has asked and been answered, and specifications that look back on it: `Spec.traced`
allows a request because of what happened before.  Nothing of the modelled program is named here.
-/

namespace Interact

variable {E : Type} {R : E → Type} {V σ ε α β Γ : Type}

/-- A request and its response. -/
abbrev Reply (E : Type) (R : E → Type) := (e : E) × R e

/-- The environment that also writes down every exchange, latest first. -/
def logging (react : (e : E) → Γ → R e × Γ) (e : E) (γ : Γ × List (Reply E R)) :
    R e × Γ × List (Reply E R) :=
  ((react e γ.1).1, (react e γ.1).2, ⟨e, (react e γ.1).1⟩ :: γ.2)

/-- What happened before decides, latest first. -/
def Spec.traced (pre : List (Reply E R) → E → Prop) : Spec E R (List (Reply E R)) where
  pre := pre
  next h e r h' := h' = ⟨e, r⟩ :: h

namespace Prog

/-- The exchanges of a run, in order. -/
def exchanges (react : (e : E) → Γ → R e × Γ) : Prog E R α → Γ → List (Reply E R)
  | ret _, _ => []
  | ask e k, γ => ⟨e, (react e γ).1⟩ :: exchanges react (k (react e γ).1) (react e γ).2

theorem exchanges_bind (react : (e : E) → Γ → R e × Γ) (p : Prog E R α) (f : α → Prog E R β)
    (γ : Γ) : (p.bind f).exchanges react γ =
      p.exchanges react γ ++ (f (p.eval react γ).1).exchanges react (p.eval react γ).2 := by
  induction p generalizing γ with
  | ret a => rfl
  | ask e k ih => exact congrArg (_ :: ·) (ih _ _)

/-- What is written down are the exchanges, and nothing else changes. -/
theorem eval_logging (react : (e : E) → Γ → R e × Γ) (p : Prog E R α) (γ : Γ)
    (h : List (Reply E R)) : p.eval (logging react) (γ, h) =
      ((p.eval react γ).1, (p.eval react γ).2, (p.exchanges react γ).reverse ++ h) := by
  induction p generalizing γ h with
  | ret a => rfl
  | ask e k ih =>
    have := ih (react e γ).1 (react e γ).2 (⟨e, (react e γ).1⟩ :: h)
    rw [exchanges, List.reverse_cons, List.append_assoc]
    exact this

/-- The answers of a run are those of its environment. -/
theorem answer_of_mem (react : (e : E) → Γ → R e × Γ) (p : Prog E R α) (γ : Γ) {x : Reply E R}
    (h : x ∈ p.exchanges react γ) : ∃ δ, x.2 = (react x.1 δ).1 := by
  induction p generalizing γ with
  | ret a => cases h
  | ask e k ih =>
    obtain rfl | h := List.mem_cons.mp h
    · exact ⟨γ, rfl⟩
    · exact ih _ _ h

/-- The program asks `e` once its requests have been answered as `h` says, latest first. -/
inductive Issues : Prog E R α → List (Reply E R) → E → Prop
  | here (e : E) (k : R e → Prog E R α) : Issues (.ask e k) [] e
  | later (e : E) (k : R e → Prog E R α) (r : R e) {h : List (Reply E R)} {e' : E} :
    Issues (k r) h e' → Issues (.ask e k) (h ++ [⟨e, r⟩]) e'

end Prog

/-- Whatever the answers: what is asked is allowed. -/
theorem Ok.issues {pre : List (Reply E R) → E → Prop} {p : Prog E R α}
    {Q : α → List (Reply E R) → Prop} {h h' : List (Reply E R)} {e : E}
    (hp : Ok (Spec.traced pre) p Q h) (hi : p.Issues h' e) : pre (h' ++ h) e := by
  induction hi generalizing h with
  | here e k => exact hp.1
  | later e k r hi ih =>
    have := ih (hp.2 r _ rfl)
    rwa [List.append_assoc]

theorem Ok.exchanges {pre : List (Reply E R) → E → Prop} {p : Prog E R α}
    {Q : α → List (Reply E R) → Prop} {h : List (Reply E R)}
    (hp : Ok (Spec.traced pre) p Q h) (react : (e : E) → Γ → R e × Γ) (γ : Γ) :
    Q (p.eval react γ).1 ((p.exchanges react γ).reverse ++ h) := by
  induction p generalizing γ h with
  | ret a => exact hp
  | ask e k ih =>
    have := ih _ (hp.2 (react e γ).1 _ rfl) (react e γ).2
    rwa [Prog.exchanges, List.reverse_cons, List.append_assoc]

namespace Act

variable (react : (e : E) → Γ → R e × Γ) (s : σ) (γ : Γ)

def exchanges (m : Act E R σ ε α) : List (Reply E R) := (m s).exchanges react γ

/-- The exchanges of a run, latest first. -/
def history (m : Act E R σ ε α) : List (Reply E R) := (exchanges react s γ m).reverse

theorem run_logging (m : Act E R σ ε α) : run (logging react) s (γ, []) m =
    ((run react s γ m).1, (run react s γ m).2, history react s γ m) := by
  rw [run, Prog.eval_logging, List.append_nil]
  rfl

section Exchanges

variable {m : Act E R σ ε α} (f : α → Act E R σ ε β) {a : α} {e : ε} {t : σ} {δ : Γ}

theorem exchanges_bind_ok (h : run react s γ m = ((.ok a, t), δ)) :
    exchanges react s γ (m >>= f) = exchanges react s γ m ++ exchanges react t δ (f a) := by
  show ((m s).bind _).exchanges react γ = _
  rw [Prog.exchanges_bind]
  rw [run] at h
  rw [h]
  rfl

/-- After an exception nothing is asked. -/
theorem exchanges_bind_error (h : run react s γ m = ((.error e, t), δ)) :
    exchanges react s γ (m >>= f) = exchanges react s γ m := by
  show ((m s).bind _).exchanges react γ = _
  rw [Prog.exchanges_bind]
  rw [run] at h
  rw [h]
  exact List.append_nil _

theorem exchanges_attempt (m : Act E R σ ε α) :
    exchanges react s γ (attempt m : Act E R σ ε (Except ε α)) = exchanges react s γ m := by
  show ((m s).bind _).exchanges react γ = _
  rw [Prog.exchanges_bind]
  exact List.append_nil _

end Exchanges

variable {s} in
/-- A triple about histories, for a run. -/
theorem Holds.history {pre : List (Reply E R) → E → Prop} {m : Act E R σ ε α}
    {P : σ → List (Reply E R) → Prop} {Q : α → σ → List (Reply E R) → Prop}
    {X : ε → σ → List (Reply E R) → Prop} (h : Holds (Spec.traced pre) P m Q X) (hP : P s []) :
    match Act.run react s γ m with
    | ((.ok a, t), _) => Q a t (Act.history react s γ m)
    | ((.error e, t), _) => X e t (Act.history react s γ m) := by
  have hq := (h s [] hP).exchanges react γ
  rw [List.append_nil] at hq
  rw [Act.run, Act.history, Act.exchanges]
  rcases hr : (m s).eval react γ with ⟨⟨e | a, t⟩, δ⟩
  · rwa [hr] at hq
  · rwa [hr] at hq

end Act

end Interact
