import Mathlib.Logic.Basic
import Mathlib.Data.Nat.Notation

/-!
# ResellerBot.Interact — interaction programs and a logic for them

A program is a tree of *requests*: it asks `e`, receives a response of type `R e` and goes on.
What a request does is decided elsewhere (`Prog.eval` here, the pools of `ResellerBot.Pool`), so
one and the same program is run alone, interleaved with others, or against a faulty environment.

`Act E R σ ε` adds a private state `σ` that survives an exception `ε` (the objects a piece of code
has already mutated when it raises).  `Act.Holds S P m Q X` is the triple of a `Spec`: from `P`
every request of `m` meets its precondition, a normal result satisfies `Q`, an exception `X`.

Nothing of the modelled program is named here.
-/

namespace Interact

variable {E : Type} {R : E → Type} {V σ ε α β : Type}

/-- A result, or a request with a continuation for each of its responses. -/
inductive Prog (E : Type) (R : E → Type) (α : Type) : Type
  | ret (a : α) : Prog E R α
  | ask (e : E) (k : R e → Prog E R α) : Prog E R α

namespace Prog

def bind : Prog E R α → (α → Prog E R β) → Prog E R β
  | ret a, f => f a
  | ask e k, f => ask e fun r => bind (k r) f

/-- The deterministic run of a program in an environment `Γ` that answers every request. -/
def eval {Γ : Type} (react : (e : E) → Γ → R e × Γ) : Prog E R α → Γ → α × Γ
  | ret a, γ => (a, γ)
  | ask e k, γ => eval react (k (react e γ).1) (react e γ).2

theorem eval_bind {Γ : Type} (react : (e : E) → Γ → R e × Γ) (p : Prog E R α)
    (f : α → Prog E R β) (γ : Γ) :
    (p.bind f).eval react γ = (f (p.eval react γ).1).eval react (p.eval react γ).2 := by
  induction p generalizing γ with
  | ret a => rfl
  | ask e k ih => exact ih _ _

end Prog

/-! ## Specifications of requests -/

/-- What a program must know before it asks `e`, and how its knowledge `v` changes with the
response (a relation: responses that cannot occur lead nowhere). -/
structure Spec (E : Type) (R : E → Type) (V : Type) where
  pre : V → E → Prop
  next : V → (e : E) → R e → V → Prop

/-- Every request of the program meets its precondition, and a result satisfies `Q`. -/
def Ok (S : Spec E R V) : Prog E R α → (α → V → Prop) → V → Prop
  | .ret a, Q, v => Q a v
  | .ask e k, Q, v => S.pre v e ∧ ∀ r v', S.next v e r v' → Ok S (k r) Q v'

theorem Ok.mono {S : Spec E R V} {p : Prog E R α} {Q Q' : α → V → Prop} {v : V}
    (h : Ok S p Q v) (hQ : ∀ a v, Q a v → Q' a v) : Ok S p Q' v := by
  induction p generalizing v with
  | ret a => exact hQ _ _ h
  | ask e k ih => exact ⟨h.1, fun r v' hr => ih r (h.2 r v' hr)⟩

theorem Ok.bind {S : Spec E R V} {p : Prog E R α} {f : α → Prog E R β} {Q : α → V → Prop}
    {Q' : β → V → Prop} {v : V} (h : Ok S p Q v) (hf : ∀ a v, Q a v → Ok S (f a) Q' v) :
    Ok S (p.bind f) Q' v := by
  induction p generalizing v with
  | ret a => exact hf _ _ h
  | ask e k ih => exact ⟨h.1, fun r v' hr => ih r (h.2 r v' hr)⟩

theorem Ok.and {S : Spec E R V} {p : Prog E R α} {Q Q' : α → V → Prop} {v : V} (h : Ok S p Q v)
    (h' : Ok S p Q' v) : Ok S p (fun a v => Q a v ∧ Q' a v) v := by
  induction p generalizing v with
  | ret a => exact ⟨h, h'⟩
  | ask e k ih => exact ⟨h.1, fun r v' hr => ih r (h.2 r v' hr) (h'.2 r v' hr)⟩

/-- A specification that allows more and foresees no other responses. -/
theorem Ok.weaken {S S' : Spec E R V} {p : Prog E R α} {Q : α → V → Prop} {v : V} (h : Ok S p Q v)
    (hpre : ∀ v e, S.pre v e → S'.pre v e)
    (hnext : ∀ v e r v', S'.next v e r v' → S.next v e r v') : Ok S' p Q v := by
  induction p generalizing v with
  | ret a => exact h
  | ask e k ih => exact ⟨hpre _ _ h.1, fun r v' hr => ih r (h.2 r v' (hnext _ _ _ _ hr))⟩

/-- Where every request is allowed, nothing has to be known about a program. -/
theorem Ok.of_free {S : Spec E R V} (hpre : ∀ v e, S.pre v e) (p : Prog E R α) (v : V) :
    Ok S p (fun _ _ => True) v := by
  induction p generalizing v with
  | ret a => trivial
  | ask e k ih => exact ⟨hpre v e, fun r v' _ => ih r v'⟩

/-- A program that keeps to its specification, in an environment that keeps to it as well: an
invariant of environment and knowledge holds at the end. -/
theorem Ok.eval {Γ : Type} {S : Spec E R V} {react : (e : E) → Γ → R e × Γ} {I : Γ → V → Prop}
    (hreact : ∀ γ v e, I γ v → S.pre v e →
      ∃ v', S.next v e (react e γ).1 v' ∧ I (react e γ).2 v')
    {p : Prog E R α} {Q : α → V → Prop} {γ : Γ} {v : V} (h : Ok S p Q v) (hI : I γ v) :
    ∃ v', I (p.eval react γ).2 v' ∧ Q (p.eval react γ).1 v' := by
  induction p generalizing γ v with
  | ret a => exact ⟨v, hI, h⟩
  | ask e k ih =>
    obtain ⟨v', hn, hI'⟩ := hreact γ v e hI h.1
    exact ih _ (h.2 _ v' hn) hI'

/-- Everything is allowed, and the environment is known exactly. -/
def Spec.exact {Γ : Type} (react : (e : E) → Γ → R e × Γ) : Spec E R Γ where
  pre _ _ := True
  next γ e r γ' := react e γ = (r, γ')

/-! ## Programs with a private state and exceptions -/

/-- An action: from a private state to a program that returns or raises, with the state left. -/
def Act (E : Type) (R : E → Type) (σ ε α : Type) : Type := σ → Prog E R (Except ε α × σ)

namespace Act

protected def pure (a : α) : Act E R σ ε α := fun s => .ret (.ok a, s)

protected def bind (m : Act E R σ ε α) (f : α → Act E R σ ε β) : Act E R σ ε β := fun s =>
  (m s).bind fun
    | (.ok a, s') => f a s'
    | (.error e, s') => .ret (.error e, s')

instance : Monad (Act E R σ ε) where
  pure := Act.pure
  bind := Act.bind

def raise (e : ε) : Act E R σ ε α := fun s => .ret (.error e, s)

/-- Run `m` and hand over its outcome; the changes it made to the private state stay. -/
def attempt (m : Act E R σ ε α) : Act E R σ ε (Except ε α) := fun s =>
  (m s).bind fun (r, s') => .ret (.ok r, s')

/-- Turn an outcome back into the action it came from. -/
def outcome : Except ε α → Act E R σ ε α
  | .ok a => pure a
  | .error e => raise e

def request (e : E) : Act E R σ ε (R e) := fun s => .ask e fun r => .ret (.ok r, s)

def state : Act E R σ ε σ := fun s => .ret (.ok s, s)

def modify (f : σ → σ) : Act E R σ ε Unit := fun s => .ret (.ok (), f s)

/-- `m` if the condition holds. -/
def when (b : Bool) (m : Act E R σ ε Unit) : Act E R σ ε Unit := if b then m else pure ()

def forEach (f : α → Act E R σ ε Unit) : List α → Act E R σ ε Unit
  | [] => pure ()
  | x :: xs => do f x; forEach f xs

/-- At most `n` rounds of `f`; the first round that yields a value ends the search. -/
def searchFor (f : Act E R σ ε (Option α)) : ℕ → Act E R σ ε (Option α)
  | 0 => pure none
  | n + 1 => do
    match ← f with
    | some a => pure (some a)
    | none => searchFor f n

/-! ## Runs in an environment -/

section Run

variable {Γ : Type} (react : (e : E) → Γ → R e × Γ) (s : σ) (γ : Γ)

theorem state_bind (f : σ → Act E R σ ε α) (s : σ) : (state >>= f) s = f s s := rfl

/-- The deterministic run of an action: its outcome, the private state and the environment left. -/
def run (m : Act E R σ ε α) : (Except ε α × σ) × Γ := (m s).eval react γ

@[simp] theorem run_pure (a : α) :
    run react s γ (Pure.pure a : Act E R σ ε α) = ((.ok a, s), γ) := rfl

@[simp] theorem run_raise (e : ε) :
    run react s γ (raise e : Act E R σ ε α) = ((.error e, s), γ) := rfl

@[simp] theorem run_request (e : E) :
    run react s γ (request e : Act E R σ ε (R e)) = ((.ok (react e γ).1, s), (react e γ).2) := rfl

@[simp] theorem run_state : run react s γ (state : Act E R σ ε σ) = ((.ok s, s), γ) := rfl

@[simp] theorem run_modify (f : σ → σ) :
    run react s γ (modify f : Act E R σ ε Unit) = ((.ok (), f s), γ) := rfl

@[simp] theorem run_outcome (r : Except ε α) :
    run react s γ (outcome r : Act E R σ ε α) = ((r, s), γ) := by
  cases r <;> rfl

theorem run_bind (m : Act E R σ ε α) (f : α → Act E R σ ε β) :
    run react s γ (m >>= f) = match run react s γ m with
      | ((.ok a, s'), γ') => run react s' γ' (f a)
      | ((.error e, s'), γ') => ((.error e, s'), γ') := by
  show ((m s).bind _).eval react γ = _
  rw [Prog.eval_bind, run]
  rcases (m s).eval react γ with ⟨⟨e | a, s'⟩, γ'⟩ <;> rfl

theorem run_attempt (m : Act E R σ ε α) :
    run react s γ (attempt m : Act E R σ ε (Except ε α)) =
      ((.ok (run react s γ m).1.1, (run react s γ m).1.2), (run react s γ m).2) := by
  show ((m s).bind _).eval react γ = _
  rw [Prog.eval_bind, run]
  rfl

/-- The rest of a run whose first part is known. -/
theorem run_bind_ok {m : Act E R σ ε α} (f : α → Act E R σ ε β) {a : α} {t : σ} {δ : Γ}
    (h : run react s γ m = ((.ok a, t), δ)) : run react s γ (m >>= f) = run react t δ (f a) := by
  rw [run_bind, h]

/-- A sequence that returns has returned from both of its parts. -/
theorem run_bind_inv {m : Act E R σ ε α} {f : α → Act E R σ ε β} {b : β} {s' : σ} {γ' : Γ}
    (h : run react s γ (m >>= f) = ((.ok b, s'), γ')) :
    ∃ a s₁ γ₁, run react s γ m = ((.ok a, s₁), γ₁) ∧ run react s₁ γ₁ (f a) = ((.ok b, s'), γ') := by
  rw [run_bind] at h
  rcases hm : run react s γ m with ⟨⟨e | a, s₁⟩, γ₁⟩
  · rw [hm] at h
    cases h
  · rw [hm] at h
    exact ⟨a, s₁, γ₁, rfl, h⟩

end Run

/-! ## Runs that return -/

section Returns

variable {Γ : Type} {react : (e : E) → Γ → R e × Γ} {s : σ} {γ : Γ} {m : Act E R σ ε α}
  {Q Q' : α → σ → Γ → Prop}

/-- The run of `m` returns, and what it returns and leaves satisfies `Q`. -/
def Returns (react : (e : E) → Γ → R e × Γ) (s : σ) (γ : Γ) (m : Act E R σ ε α)
    (Q : α → σ → Γ → Prop) : Prop :=
  ∃ a t δ, run react s γ m = ((.ok a, t), δ) ∧ Q a t δ

theorem Returns.mono (h : Returns react s γ m Q) (hQ : ∀ a t δ, Q a t δ → Q' a t δ) :
    Returns react s γ m Q' := by
  obtain ⟨a, t, δ, hr, ha⟩ := h
  exact ⟨a, t, δ, hr, hQ a t δ ha⟩

theorem Returns.bind {f : α → Act E R σ ε β} {Q₂ : β → σ → Γ → Prop} (h : Returns react s γ m Q)
    (hf : ∀ a t δ, Q a t δ → Returns react t δ (f a) Q₂) : Returns react s γ (m >>= f) Q₂ := by
  obtain ⟨a, t, δ, hr, ha⟩ := h
  obtain ⟨b, t', δ', hr', hb⟩ := hf a t δ ha
  exact ⟨b, t', δ', by rw [run_bind_ok _ _ _ _ hr, hr'], hb⟩

/-- A loop that returns, with an invariant about the elements that are left. -/
theorem Returns.forEach {f : β → Act E R σ ε Unit} {I : List β → σ → Γ → Prop}
    (hf : ∀ x xs s γ, I (x :: xs) s γ → Returns react s γ (f x) fun _ => I xs) {xs : List β}
    (h : I xs s γ) : Returns react s γ (Act.forEach f xs) fun _ => I [] := by
  induction xs generalizing s γ with
  | nil => exact ⟨(), s, γ, rfl, h⟩
  | cons x xs ih => exact (hf x xs s γ h).bind fun _ _ _ h' => ih h'

end Returns

/-! ## Triples -/

/-- From private state and knowledge in `P`, all requests of `m` are allowed by `S`, a normal
result satisfies `Q` and an exception `X`. -/
def Holds (S : Spec E R V) (P : σ → V → Prop) (m : Act E R σ ε α) (Q : α → σ → V → Prop)
    (X : ε → σ → V → Prop) : Prop :=
  ∀ s v, P s v → Ok S (m s) (fun
    | (.ok a, s') => Q a s'
    | (.error e, s') => X e s') v

section Triples

variable {S : Spec E R V} {P P' : σ → V → Prop} {Q Q' : α → σ → V → Prop}
  {Q₂ : β → σ → V → Prop} {X X' : ε → σ → V → Prop}

/-- A triple about runs in an environment, whose states are the knowledge. -/
theorem Holds.run {Γ : Type} {react : (e : E) → Γ → R e × Γ} {P : σ → Γ → Prop}
    {Q : α → σ → Γ → Prop} {X : ε → σ → Γ → Prop} {m : Act E R σ ε α}
    (h : Holds (Spec.exact react) P m Q X) {s : σ} {γ : Γ} (hP : P s γ) :
    match Act.run react s γ m with
    | ((.ok a, t), δ) => Q a t δ
    | ((.error e, t), δ) => X e t δ := by
  have hreact : ∀ (δ v : Γ) (e : E), δ = v → (Spec.exact react).pre v e →
      ∃ v', (Spec.exact react).next v e (react e δ).1 v' ∧ (react e δ).2 = v' := by
    rintro δ _ e rfl -
    exact ⟨_, rfl, rfl⟩
  obtain ⟨v', rfl, hq⟩ := (h s γ hP).eval hreact rfl
  rw [Act.run]
  rcases hr : (m s).eval react γ with ⟨⟨e | a, t⟩, δ⟩
  · rwa [hr] at hq
  · rwa [hr] at hq

theorem Holds.pure {a : α} (h : ∀ s v, P s v → Q a s v) :
    Holds S P (Pure.pure a : Act E R σ ε α) Q X :=
  fun s v hP => h s v hP

theorem Holds.raise {e : ε} (h : ∀ s v, P s v → X e s v) :
    Holds S P (Act.raise e : Act E R σ ε α) Q X :=
  fun s v hP => h s v hP

theorem Holds.bind {m : Act E R σ ε α} {f : α → Act E R σ ε β} (hm : Holds S P m Q X)
    (hf : ∀ a, Holds S (Q a) (f a) Q₂ X) : Holds S P (m >>= f) Q₂ X := by
  intro s v hP
  refine (hm s v hP).bind ?_
  rintro ⟨a | e, s'⟩ v' h
  · exact h
  · exact hf _ s' v' h

theorem Holds.conseq {m : Act E R σ ε α} (hm : Holds S P' m Q' X') (hP : ∀ s v, P s v → P' s v)
    (hQ : ∀ a s v, Q' a s v → Q a s v) (hX : ∀ e s v, X' e s v → X e s v) :
    Holds S P m Q X := by
  intro s v h
  refine (hm s v (hP s v h)).mono ?_
  rintro ⟨a | e, s'⟩ v' h
  · exact hX _ _ _ h
  · exact hQ _ _ _ h

theorem Holds.pre {m : Act E R σ ε α} (hm : Holds S P' m Q X) (hP : ∀ s v, P s v → P' s v) :
    Holds S P m Q X :=
  hm.conseq hP (fun _ _ _ h => h) fun _ _ _ h => h

/-- Two triples about one program. -/
theorem Holds.and {m : Act E R σ ε α} (h : Holds S P m Q X) (h' : Holds S P' m Q' X') :
    Holds S (fun s v => P s v ∧ P' s v) m (fun a s v => Q a s v ∧ Q' a s v)
      fun e s v => X e s v ∧ X' e s v := by
  intro s v hP
  refine ((h s v hP.1).and (h' s v hP.2)).mono ?_
  rintro ⟨a | e, s'⟩ v' hQ
  · exact hQ
  · exact hQ

/-- What the precondition says of everything may be assumed. -/
theorem Holds.of_pre {p : Prop} {m : Act E R σ ε α} (h : ∀ s v, P s v → p)
    (hm : p → Holds S P m Q X) : Holds S P m Q X :=
  fun s v hP => hm (h s v hP) s v hP

theorem Holds.post {m : Act E R σ ε α} (hm : Holds S P m Q' X)
    (hQ : ∀ a s v, Q' a s v → Q a s v) : Holds S P m Q X :=
  hm.conseq (fun _ _ h => h) hQ fun _ _ _ h => h

theorem Holds.attempt {m : Act E R σ ε α} (hm : Holds S P m Q X) :
    Holds S P (Act.attempt m : Act E R σ ε (Except ε α)) (fun
      | .ok a => Q a
      | .error e => X e) X' := by
  intro s v hP
  refine (hm s v hP).bind ?_
  rintro ⟨a | e, s'⟩ v' h
  · exact h
  · exact h

theorem Holds.outcome {r : Except ε α} (hQ : ∀ a, r = .ok a → ∀ s v, P s v → Q a s v)
    (hX : ∀ e, r = .error e → ∀ s v, P s v → X e s v) :
    Holds S P (Act.outcome r : Act E R σ ε α) Q X := by
  cases r with
  | ok a => exact Holds.pure (hQ a rfl)
  | error e => exact Holds.raise (hX e rfl)

theorem Holds.request {e : E} {Q : R e → σ → V → Prop} (hpre : ∀ s v, P s v → S.pre v e)
    (h : ∀ s v r v', P s v → S.next v e r v' → Q r s v') :
    Holds S P (Act.request e : Act E R σ ε (R e)) Q X :=
  fun s v hP => ⟨hpre s v hP, fun r v' hr => h s v r v' hP hr⟩

theorem Holds.state {Q : σ → σ → V → Prop} (h : ∀ s v, P s v → Q s s v) :
    Holds S P (Act.state : Act E R σ ε σ) Q X :=
  fun s v hP => h s v hP

theorem Holds.modify {f : σ → σ} {Q : Unit → σ → V → Prop} (h : ∀ s v, P s v → Q () (f s) v) :
    Holds S P (Act.modify f : Act E R σ ε Unit) Q X :=
  fun s v hP => h s v hP

theorem Holds.when {b : Bool} {m : Act E R σ ε Unit} {Q : σ → V → Prop}
    (ht : b = true → Holds S P m (fun _ => Q) X) (hf : b = false → ∀ s v, P s v → Q s v) :
    Holds S P (Act.when b m) (fun _ => Q) X := by
  cases b with
  | true => exact ht rfl
  | false => exact Holds.pure (hf rfl)

theorem Holds.ite {c : Prop} [Decidable c] {m m' : Act E R σ ε α} (hm : Holds S P m Q X)
    (hm' : Holds S P m' Q X) : Holds S P (if c then m else m') Q X := by
  by_cases h : c
  · rwa [if_pos h]
  · rwa [if_neg h]

/-- A loop whose invariant speaks of the elements that are left. -/
theorem Holds.forEachRest {f : β → Act E R σ ε Unit} {I : List β → σ → V → Prop}
    (hf : ∀ x xs, Holds S (I (x :: xs)) (f x) (fun _ => I xs) X) (xs : List β) :
    Holds S (I xs) (Act.forEach f xs) (fun _ => I []) X := by
  induction xs with
  | nil => exact Holds.pure fun _ _ h => h
  | cons x xs ih => exact (hf x xs).bind fun _ => ih

/-- A loop keeps what its round for each of the elements keeps. -/
theorem Holds.forEachMem {f : β → Act E R σ ε Unit} {I : σ → V → Prop} {xs : List β}
    (hf : ∀ x ∈ xs, Holds S I (f x) (fun _ => I) X) :
    Holds S I (Act.forEach f xs) (fun _ => I) X := by
  induction xs with
  | nil => exact Holds.pure fun _ _ h => h
  | cons x xs ih =>
    rw [List.forall_mem_cons] at hf
    exact hf.1.bind fun _ => ih hf.2

/-- A loop keeps what each of its rounds keeps. -/
theorem Holds.forEach {f : β → Act E R σ ε Unit} {I : σ → V → Prop}
    (hf : ∀ x, Holds S I (f x) (fun _ => I) X) (xs : List β) :
    Holds S I (Act.forEach f xs) (fun _ => I) X :=
  Holds.forEachMem fun x _ => hf x

/-- After a round of a search: `Q` of what has been found, or `I` still. -/
def Found (Q : α → σ → V → Prop) (I : σ → V → Prop) : Option α → σ → V → Prop
  | some a => Q a
  | none => I

/-- A bounded search keeps what a fruitless round keeps. -/
theorem Holds.searchFor {f : Act E R σ ε (Option α)} {I : σ → V → Prop}
    (hf : Holds S I f (Found Q I) X) (n : ℕ) :
    Holds S I (Act.searchFor f n) (Found Q I) X := by
  induction n with
  | zero => exact Holds.pure fun _ _ h => h
  | succ n ih =>
    refine hf.bind fun r => ?_
    cases r with
    | some a => exact Holds.pure fun _ _ h => h
    | none => exact ih

/-- A precondition that is false of every state asks nothing. -/
theorem Holds.vacuous {m : Act E R σ ε α} (h : ∀ s v, ¬ P s v) : Holds S P m Q X :=
  fun s v hP => absurd hP (h s v)

/-- The witness of an existential precondition may be fixed for the rest of the program. -/
theorem Holds.ex {ι : Sort*} {P : ι → σ → V → Prop} {m : Act E R σ ε α}
    (h : ∀ i, Holds S (P i) m Q X) : Holds S (fun s v => ∃ i, P i s v) m Q X :=
  fun s v ⟨i, hP⟩ => h i s v hP

/-- A fact about neither the state nor the knowledge may be moved out of the precondition. -/
theorem Holds.fact {m : Act E R σ ε α} {p : Prop} (h : p → Holds S P m Q X) :
    Holds S (fun s v => p ∧ P s v) m Q X :=
  fun s v ⟨hp, hP⟩ => h hp s v hP

end Triples

/-! ## Programs whose requests are all allowed -/

/-- Whatever its state and whatever it knows, `m` makes only requests that `S` allows. -/
def Safe (S : Spec E R V) (m : Act E R σ ε α) : Prop :=
  Holds S (fun _ _ => True) m (fun _ _ _ => True) fun _ _ _ => True

/-- A safe program with a fact about its results. -/
def SafeWith (S : Spec E R V) (m : Act E R σ ε α) (Q : α → Prop) : Prop :=
  Holds S (fun _ _ => True) m (fun a _ _ => Q a) fun _ _ _ => True

section Safety

variable {S : Spec E R V} {m : Act E R σ ε α} {f : α → Act E R σ ε β} {Q : α → Prop}

namespace Safe

theorem pure (a : α) : Safe S (Pure.pure a : Act E R σ ε α) := Holds.pure fun _ _ _ => trivial

theorem raise (e : ε) : Safe S (Act.raise e : Act E R σ ε α) := Holds.raise fun _ _ _ => trivial

theorem outcome (r : Except ε α) : Safe S (Act.outcome r : Act E R σ ε α) :=
  Holds.outcome (fun _ _ _ _ _ => trivial) fun _ _ _ _ _ => trivial

theorem state : Safe S (Act.state : Act E R σ ε σ) := Holds.state fun _ _ _ => trivial

theorem modify (g : σ → σ) : Safe S (Act.modify g : Act E R σ ε Unit) :=
  Holds.modify fun _ _ _ => trivial

theorem request {e : E} (h : ∀ v, S.pre v e) : Safe S (Act.request e : Act E R σ ε (R e)) :=
  Holds.request (fun _ v _ => h v) fun _ _ _ _ _ _ => trivial

theorem bind (hm : Safe S m) (hf : ∀ a, Safe S (f a)) : Safe S (m >>= f) :=
  Holds.bind hm fun a => hf a

theorem attempt (hm : Safe S m) : Safe S (Act.attempt m : Act E R σ ε (Except ε α)) :=
  Holds.attempt hm |>.post fun _ _ _ _ => trivial

theorem when {b : Bool} {m : Act E R σ ε Unit} (hm : b = true → Safe S m) :
    Safe S (Act.when b m) :=
  Holds.when (Q := fun _ _ => True) hm fun _ _ _ _ => trivial

theorem ite {c : Prop} [Decidable c] {m' : Act E R σ ε α} (hm : Safe S m) (hm' : Safe S m') :
    Safe S (if c then m else m') := by
  by_cases h : c
  · rwa [if_pos h]
  · rwa [if_neg h]

theorem forEach {f : β → Act E R σ ε Unit} (hf : ∀ x, Safe S (f x)) (xs : List β) :
    Safe S (Act.forEach f xs) :=
  Holds.forEach (I := fun _ _ => True) hf xs

theorem searchFor {f : Act E R σ ε (Option α)} (hf : Safe S f) (n : ℕ) :
    Safe S (Act.searchFor f n) := by
  induction n with
  | zero => exact Safe.pure none
  | succ n ih =>
    refine hf.bind fun r => ?_
    cases r with
    | some a => exact Safe.pure (some a)
    | none => exact ih

/-- Every request of a safe program is allowed, from any knowledge. -/
theorem ok (h : Safe S m) (s : σ) (v : V) : Ok S (m s) (fun _ _ => True) v :=
  (h s v trivial).mono fun _ _ _ => trivial

end Safe

namespace SafeWith

theorem pure {a : α} (h : Q a) : SafeWith S (Pure.pure a : Act E R σ ε α) Q :=
  Holds.pure fun _ _ _ => h

theorem raise (e : ε) : SafeWith S (Act.raise e : Act E R σ ε α) Q := Holds.raise fun _ _ _ => trivial

theorem outcome {r : Except ε α} (h : ∀ a, r = .ok a → Q a) :
    SafeWith S (Act.outcome r : Act E R σ ε α) Q :=
  Holds.outcome (fun a ha _ _ _ => h a ha) fun _ _ _ _ _ => trivial

theorem request {e : E} {Q : R e → Prop} (h : ∀ v, S.pre v e)
    (hr : ∀ v r v', S.next v e r v' → Q r) :
    SafeWith S (Act.request e : Act E R σ ε (R e)) Q :=
  Holds.request (fun _ v _ => h v) fun _ v r v' _ hn => hr v r v' hn

theorem safe (h : SafeWith S m Q) : Safe S m := Holds.post h fun _ _ _ _ => trivial

theorem bindWith {Q₂ : β → Prop} (hm : SafeWith S m Q) (hf : ∀ a, Q a → SafeWith S (f a) Q₂) :
    SafeWith S (m >>= f) Q₂ := by
  refine Holds.bind hm fun a s v ha => ?_
  exact hf a ha s v trivial

theorem bind (hm : SafeWith S m Q) (hf : ∀ a, Q a → Safe S (f a)) : Safe S (m >>= f) :=
  hm.bindWith hf

end SafeWith

/-- A safe program that always raises. -/
def Raises (S : Spec E R V) (m : Act E R σ ε α) : Prop := SafeWith S m fun _ => False

theorem Raises.bind (h : Raises S m) (f : α → Act E R σ ε β) : Safe S (m >>= f) :=
  SafeWith.bind h fun _ ha => ha.elim

/-- What is done about the exception. -/
theorem Raises.attempt_bind {f : Except ε α → Act E R σ ε β} (h : Raises S m)
    (hf : ∀ e, Safe S (f (.error e))) : Safe S (attempt m >>= f) := by
  refine Holds.bind (Holds.attempt h) fun r s v hr => ?_
  cases r with
  | ok a => exact hr.elim
  | error e => exact hf e s v trivial

end Safety

end Act

end Interact
