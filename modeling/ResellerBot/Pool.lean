import ResellerBot.Interact
import Mathlib.Logic.Function.Basic

/-!
# ResellerBot.Pool — interleaved runs of interaction programs

A `System` says what each request does to a shared world `Γ` when thread `i` makes it and a choice
`Ch` resolves the nondeterminism.  A `Config` is the world with the threads alive; the moves start
a task, let one thread make its next request, change the world from outside, or crash everything.
`Reach sys may c₀ c` is reachability by moves that `may` admits, so a side condition on the steps
of a run is a part of `may`.

`System.Reach.invariant` is the rule used for every result about runs: each thread carries the knowledge
of an `Interact.Spec` (its *view*), and an invariant relates the world to the views.
-/

namespace Interact

/-- What requests do, which program a task runs, and what a restart leaves of the world. -/
structure System (E : Type) (R : E → Type) (κ Γ Ch : Type) where
  react : ℕ → (e : E) → Ch → Γ → Option (R e × Γ)
  prog : κ → Prog E R Unit
  restart : Γ → Γ

structure Config (E : Type) (R : E → Type) (κ Γ : Type) where
  world : Γ
  threads : ℕ → Option (κ × Prog E R Unit)

inductive Move (κ Γ Ch : Type)
  | spawn (i : ℕ) (t : κ)
  | run (i : ℕ) (ch : Ch)
  | env (γ : Γ)
  | crash

variable {E : Type} {R : E → Type} {κ Γ Ch V : Type}

/-- A thread whose program has returned is gone. -/
def settle (t : κ) : Prog E R Unit → Option (κ × Prog E R Unit)
  | .ret _ => none
  | p => some (t, p)

namespace System

variable (sys : System E R κ Γ Ch)

def step (c : Config E R κ Γ) : Move κ Γ Ch → Option (Config E R κ Γ)
  | .spawn i t =>
    match c.threads i with
    | none => some { c with threads := Function.update c.threads i (settle t (sys.prog t)) }
    | some _ => none
  | .run i ch =>
    match c.threads i with
    | some (t, .ask e k) =>
      match sys.react i e ch c.world with
      | some (r, γ) => some ⟨γ, Function.update c.threads i (settle t (k r))⟩
      | none => none
    | _ => none
  | .env γ => some { c with world := γ }
  | .crash => some ⟨sys.restart c.world, fun _ => none⟩

/-- The configuration after a list of moves, if each of them is possible. -/
def runs (c : Config E R κ Γ) : List (Move κ Γ Ch) → Option (Config E R κ Γ)
  | [] => some c
  | m :: ms =>
    match sys.step c m with
    | some c' => runs c' ms
    | none => none

inductive Reach (may : Config E R κ Γ → Move κ Γ Ch → Prop) (c₀ : Config E R κ Γ) :
    Config E R κ Γ → Prop
  | refl : Reach may c₀ c₀
  | step {c c' : Config E R κ Γ} (m : Move κ Γ Ch) (h : Reach may c₀ c) (hm : may c m)
      (hs : sys.step c m = some c') : Reach may c₀ c'

end System

variable {sys : System E R κ Γ Ch} {may may' : Config E R κ Γ → Move κ Γ Ch → Prop}
  {c₀ c c' : Config E R κ Γ}

theorem System.Reach.mono (h : sys.Reach may c₀ c) (hm : ∀ c m, may c m → may' c m) :
    sys.Reach may' c₀ c := by
  induction h with
  | refl => exact .refl
  | step m _ hc hs ih => exact .step m ih (hm _ _ hc) hs

theorem System.Reach.trans {c₁ c₂ : Config E R κ Γ} (h₁ : sys.Reach may c₀ c₁)
    (h₂ : sys.Reach may c₁ c₂) : sys.Reach may c₀ c₂ := by
  induction h₂ with
  | refl => exact h₁
  | step m _ hm hs ih => exact .step m ih hm hs

/-- What every admitted move preserves may be asked of each configuration of a run. -/
theorem System.Reach.keep {I : Config E R κ Γ → Prop} (h0 : I c₀)
    (hI : ∀ c m c', I c → may c m → sys.step c m = some c' → I c') (h : sys.Reach may c₀ c) :
    I c ∧ sys.Reach (fun c m => may c m ∧ I c) c₀ c := by
  induction h with
  | refl => exact ⟨h0, .refl⟩
  | step m _ hm hs ih => exact ⟨hI _ m _ ih.1 hm hs, .step m ih.2 ⟨hm, ih.1⟩ hs⟩

/-- A list of moves that are all admitted is a run. -/
theorem System.Reach.of_runs {ms : List (Move κ Γ Ch)} (hr : sys.runs c ms = some c')
    (hm : ∀ m ∈ ms, ∀ c, may c m) : sys.Reach may c c' := by
  induction ms generalizing c with
  | nil =>
    simp only [System.runs, Option.some.injEq] at hr
    exact hr ▸ .refl
  | cons m ms ih =>
    rw [System.runs] at hr
    split at hr
    · next c₁ hs =>
      exact .trans (.step m .refl (hm m (by simp) _) hs)
        (ih hr fun m' h => hm m' (List.mem_cons_of_mem _ h))
    · exact absurd hr (by simp)

/-- The first move may be admitted for what it finds. -/
theorem System.Reach.of_runs_cons {m : Move κ Γ Ch} {ms : List (Move κ Γ Ch)}
    (hr : sys.runs c (m :: ms) = some c') (hm : may c m) (hms : ∀ m ∈ ms, ∀ c, may c m) :
    sys.Reach may c c' := by
  rw [System.runs] at hr
  split at hr
  · next c₁ hs => exact .trans (.step m .refl hm hs) (.of_runs hr hms)
  · cases hr

/-! ## Invariants over runs -/

/-- Thread `i` is about to make the request `e` for its task `t`. -/
def Config.Asks (c : Config E R κ Γ) (i : ℕ) (t : κ) (e : E) : Prop :=
  ∃ k, c.threads i = some (t, .ask e k)

/-- The views follow the threads: each one alive meets the specification of its task, and `F` holds
of the view with which it ends. -/
def Tracked (S : κ → Spec E R V) (F : V → Prop) (c : Config E R κ Γ)
    (vs : ℕ → Option (κ × V)) : Prop :=
  ∀ i, match c.threads i with
    | none => vs i = none
    | some (t, p) => ∃ v, vs i = some (t, v) ∧ Ok (S t) p (fun _ v => F v) v

section Tracked

variable {S : κ → Spec E R V} {F : V → Prop} {vs : ℕ → Option (κ × V)}

theorem Tracked.idle {γ : Γ} :
    Tracked S F (⟨γ, fun _ => none⟩ : Config E R κ Γ) (fun _ => none) :=
  fun _ => rfl

theorem Tracked.gone (h : Tracked S F c vs) {i : ℕ} (hi : c.threads i = none) : vs i = none := by
  have := h i
  rwa [hi] at this

theorem Tracked.ask (h : Tracked S F c vs) {i : ℕ} {t : κ} {e : E} {k : R e → Prog E R Unit}
    (hi : c.threads i = some (t, .ask e k)) :
    ∃ v, vs i = some (t, v) ∧ (S t).pre v e ∧
      ∀ r v', (S t).next v e r v' → Ok (S t) (k r) (fun _ v => F v) v' := by
  have := h i
  rw [hi] at this
  obtain ⟨v, hv, hok⟩ := this
  exact ⟨v, hv, hok.1, hok.2⟩

theorem Tracked.world (h : Tracked S F c vs) (γ : Γ) : Tracked S F { c with world := γ } vs := h

/-- Thread `i` goes on with a program that meets its specification: it keeps a view, or it ends
with one and is gone. -/
theorem Tracked.update (h : Tracked S F c vs) (γ : Γ) (i : ℕ) {t : κ} {p : Prog E R Unit} {v : V}
    (hp : Ok (S t) p (fun _ v => F v) v) :
    Tracked S F ⟨γ, Function.update c.threads i (settle t p)⟩
      (Function.update vs i (some (t, v))) ∨
    F v ∧ Tracked S F ⟨γ, Function.update c.threads i (settle t p)⟩
      (Function.update vs i none) := by
  cases p with
  | ret a =>
    refine .inr ⟨hp, fun j => ?_⟩
    by_cases hj : j = i
    · subst hj; simp [settle]
    · simpa [Function.update_of_ne hj] using h j
  | ask e k =>
    refine .inl fun j => ?_
    by_cases hj : j = i
    · subst hj; simpa [settle] using hp
    · simpa [Function.update_of_ne hj] using h j

end Tracked

/-- One move: if every task meets its specification from the view `v₀` and ends in a view that
satisfies `F`, and `J` holds of the world and the views after the start of a task, a request allowed
by its precondition, an outside change and a crash, then the threads are tracked again. -/
theorem System.step_tracked (S : κ → Spec E R V) (F : V → Prop) (v₀ : V)
    (J : Γ → (ℕ → Option (κ × V)) → Prop) {vs : ℕ → Option (κ × V)} {m : Move κ Γ Ch}
    (hprog : ∀ t, Ok (S t) (sys.prog t) (fun _ v => F v) v₀) (ht : Tracked S F c vs)
    (hend : ∀ γ vs i t v, J γ vs → vs i = some (t, v) → F v → J γ (Function.update vs i none))
    (hspawn : ∀ i t, m = .spawn i t → vs i = none →
      J c.world (Function.update vs i (some (t, v₀))))
    (hrun : ∀ i ch t e k r γ v, m = .run i ch → c.threads i = some (t, .ask e k) →
      vs i = some (t, v) → (S t).pre v e → sys.react i e ch c.world = some (r, γ) →
      ∃ v', (S t).next v e r v' ∧ J γ (Function.update vs i (some (t, v'))))
    (henv : ∀ γ, m = .env γ → J γ vs)
    (hcrash : m = .crash → J (sys.restart c.world) fun _ => none)
    (hs : sys.step c m = some c') : ∃ vs', Tracked S F c' vs' ∧ J c'.world vs' := by
  cases m with
  | spawn i t =>
    simp only [System.step] at hs
    split at hs
    · next hi =>
      cases hs
      have hJ' := hspawn i t rfl (ht.gone hi)
      rcases ht.update c.world i (hprog t) with h | ⟨hF, h⟩
      · exact ⟨_, h, hJ'⟩
      · refine ⟨_, h, ?_⟩
        simpa using hend _ _ i t v₀ hJ' (by simp) hF
    · cases hs
  | run i ch =>
    simp only [System.step] at hs
    split at hs
    · next t e k hi =>
      split at hs
      · next r γ hr =>
        cases hs
        obtain ⟨v, hv, hpre, hk⟩ := ht.ask hi
        obtain ⟨v', hn, hJ'⟩ := hrun i ch t e k r γ v rfl hi hv hpre hr
        rcases ht.update γ i (hk r v' hn) with h | ⟨hF, h⟩
        · exact ⟨_, h, hJ'⟩
        · refine ⟨_, h, ?_⟩
          simpa using hend _ _ i t v' hJ' (by simp) hF
      · cases hs
    · cases hs
  | env γ =>
    simp only [System.step, Option.some.injEq] at hs
    subst hs
    exact ⟨vs, ht.world γ, henv γ rfl⟩
  | crash =>
    simp only [System.step, Option.some.injEq] at hs
    subst hs
    exact ⟨_, .idle, hcrash rfl⟩

/-- **Invariants of runs.**  If every task meets its specification from the view `v₀` and ends in a
view that satisfies `F`, and `J` (between the world and the views of the threads alive) holds at the
start, survives the end of a thread, a start of a task, a request allowed by its precondition, an
outside change and a crash, then in every reachable configuration the threads are tracked by views
that `J` relates to the world.  A start may use that the views follow the threads. -/
theorem System.Reach.invariant_tracked (S : κ → Spec E R V) (F : V → Prop) (v₀ : V)
    (J : Γ → (ℕ → Option (κ × V)) → Prop)
    (hprog : ∀ t, Ok (S t) (sys.prog t) (fun _ v => F v) v₀)
    (h0 : ∃ vs, Tracked S F c₀ vs ∧ J c₀.world vs)
    (hend : ∀ γ vs i t v, J γ vs → vs i = some (t, v) → F v → J γ (Function.update vs i none))
    (hspawn : ∀ c vs i t, Tracked S F c vs → J c.world vs → vs i = none → may c (.spawn i t) →
      J c.world (Function.update vs i (some (t, v₀))))
    (hrun : ∀ c vs i t e k ch r γ v, J c.world vs →
      c.threads i = some (t, .ask e k) → vs i = some (t, v) → (S t).pre v e →
      may c (.run i ch) → sys.react i e ch c.world = some (r, γ) →
      ∃ v', (S t).next v e r v' ∧ J γ (Function.update vs i (some (t, v'))))
    (henv : ∀ c vs γ, J c.world vs → may c (.env γ) → J γ vs)
    (hcrash : ∀ c vs, J c.world vs → may c .crash → J (sys.restart c.world) fun _ => none)
    (h : sys.Reach may c₀ c) : ∃ vs, Tracked S F c vs ∧ J c.world vs := by
  induction h with
  | refl => exact h0
  | @step c c' m _ hm hs ih =>
    obtain ⟨vs, ht, hJ⟩ := ih
    refine System.step_tracked S F v₀ J hprog ht hend ?_ ?_ ?_ ?_ hs
    · rintro i t rfl hi
      exact hspawn c vs i t ht hJ hi hm
    · rintro i ch t e k r γ v rfl hi hv hpre hr
      exact hrun c vs i t e k ch r γ v hJ hi hv hpre hm hr
    · rintro γ rfl
      exact henv c vs γ hJ hm
    · rintro rfl
      exact hcrash c vs hJ hm

/-- The rule where a start needs to know nothing of the other threads. -/
theorem System.Reach.invariant (S : κ → Spec E R V) (F : V → Prop) (v₀ : V)
    (J : Γ → (ℕ → Option (κ × V)) → Prop)
    (hprog : ∀ t, Ok (S t) (sys.prog t) (fun _ v => F v) v₀)
    (h0 : ∃ vs, Tracked S F c₀ vs ∧ J c₀.world vs)
    (hend : ∀ γ vs i t v, J γ vs → vs i = some (t, v) → F v → J γ (Function.update vs i none))
    (hspawn : ∀ c vs i t, J c.world vs → vs i = none → may c (.spawn i t) →
      J c.world (Function.update vs i (some (t, v₀))))
    (hrun : ∀ c vs i t e k ch r γ v, J c.world vs →
      c.threads i = some (t, .ask e k) → vs i = some (t, v) → (S t).pre v e →
      may c (.run i ch) → sys.react i e ch c.world = some (r, γ) →
      ∃ v', (S t).next v e r v' ∧ J γ (Function.update vs i (some (t, v'))))
    (henv : ∀ c vs γ, J c.world vs → may c (.env γ) → J γ vs)
    (hcrash : ∀ c vs, J c.world vs → may c .crash → J (sys.restart c.world) fun _ => none)
    (h : sys.Reach may c₀ c) : ∃ vs, Tracked S F c vs ∧ J c.world vs :=
  h.invariant_tracked S F v₀ J hprog h0 hend (fun c vs i t _ => hspawn c vs i t) hrun henv hcrash

/-! ## Runs with a log -/

/-- Reachability, with what `label` makes of the moves so far. -/
inductive System.Logs {ρ : Type} (sys : System E R κ Γ Ch)
    (label : Config E R κ Γ → Move κ Γ Ch → Option ρ)
    (may : Config E R κ Γ → Move κ Γ Ch → Prop) (c₀ : Config E R κ Γ) :
    List ρ → Config E R κ Γ → Prop
  | refl : System.Logs sys label may c₀ [] c₀
  | step {l : List ρ} {c c' : Config E R κ Γ} (m : Move κ Γ Ch)
      (h : System.Logs sys label may c₀ l c) (hm : may c m) (hs : sys.step c m = some c') :
      System.Logs sys label may c₀ (l ++ (label c m).toList) c'

section Logs

variable {ρ : Type} {label : Config E R κ Γ → Move κ Γ Ch → Option ρ} {l : List ρ}

theorem System.Logs.reach (h : sys.Logs label may c₀ l c) : sys.Reach may c₀ c := by
  induction h with
  | refl => exact .refl
  | step m _ hm hs ih => exact .step m ih hm hs

theorem System.Reach.logs (label : Config E R κ Γ → Move κ Γ Ch → Option ρ)
    (h : sys.Reach may c₀ c) : ∃ l, sys.Logs label may c₀ l c := by
  induction h with
  | refl => exact ⟨[], .refl⟩
  | step m _ hm hs ih =>
    obtain ⟨l, hl⟩ := ih
    exact ⟨_, .step m hl hm hs⟩

/-- The rule for runs with a log: `J` holds at the start, and every move takes it on. -/
theorem System.Logs.invariant (S : κ → Spec E R V) (F : V → Prop) (v₀ : V)
    (J : List ρ → Γ → (ℕ → Option (κ × V)) → Prop)
    (hprog : ∀ t, Ok (S t) (sys.prog t) (fun _ v => F v) v₀)
    (h0 : ∃ vs, Tracked S F c₀ vs ∧ J [] c₀.world vs)
    (hend : ∀ l γ vs i t v, J l γ vs → vs i = some (t, v) → F v →
      J l γ (Function.update vs i none))
    (hspawn : ∀ l c vs i t, Tracked S F c vs → J l c.world vs → vs i = none →
      may c (.spawn i t) →
      J (l ++ (label c (.spawn i t)).toList) c.world (Function.update vs i (some (t, v₀))))
    (hrun : ∀ l c vs i t e k ch r γ v, J l c.world vs →
      c.threads i = some (t, .ask e k) → vs i = some (t, v) → (S t).pre v e →
      may c (.run i ch) → sys.react i e ch c.world = some (r, γ) →
      ∃ v', (S t).next v e r v' ∧
        J (l ++ (label c (.run i ch)).toList) γ (Function.update vs i (some (t, v'))))
    (henv : ∀ l c vs γ, J l c.world vs → may c (.env γ) →
      J (l ++ (label c (.env γ)).toList) γ vs)
    (hcrash : ∀ l c vs, J l c.world vs → may c .crash →
      J (l ++ (label c .crash).toList) (sys.restart c.world) fun _ => none)
    (h : sys.Logs label may c₀ l c) : ∃ vs, Tracked S F c vs ∧ J l c.world vs := by
  induction h with
  | refl => exact h0
  | @step l c c' m _ hm hs ih =>
    obtain ⟨vs, ht, hJ⟩ := ih
    refine System.step_tracked S F v₀ (J (l ++ (label c m).toList)) hprog ht (hend _) ?_ ?_ ?_ ?_ hs
    · rintro i t rfl hi
      exact hspawn l c vs i t ht hJ hi hm
    · rintro i ch t e k r γ v rfl hi hv hpre hr
      exact hrun l c vs i t e k ch r γ v hJ hi hv hpre hm hr
    · rintro γ rfl
      exact henv l c vs γ hJ hm
    · rintro rfl
      exact hcrash l c vs hJ hm

end Logs

end Interact
