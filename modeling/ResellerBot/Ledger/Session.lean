import ResellerBot.Ledger.Spec
import ResellerBot.Database.Run

/-!
# ResellerBot.Ledger.Session — the operations of a session keep the ledger

A session is *tidy* if everything that it would flush is lawful.  `Abides P m Q` is the triple of
the ledger with two things built in: an exception leaves a tidy session, and what a session has seen
is forgotten only together with its objects, when its epoch goes up.
-/

open Interact Growth

namespace ResellerBot

/-! ## Tidy sessions -/

/-- A fact about the order in the variable that survives a flush. -/
structure OrderFact where
  holds : Obj Order → Prop
  clean : ∀ ob, holds ob → holds (Session.clean ob)

namespace OrderFact

def any : OrderFact := ⟨fun _ => True, fun _ _ => trivial⟩

/-- About the order as the code has left it. -/
def cur (A : Order → Prop) : OrderFact := ⟨fun ob => A ob.cur, fun _ h => h⟩

/-- It has a payment time, and had one when it was read. -/
def paid : OrderFact where
  holds ob := Filled ob.cur.paidAt ∧ ∀ d, ob.db = some d → Filled d.paidAt
  clean _ h := ⟨h.1, by rintro d ⟨⟩; exact h.1⟩

end OrderFact

/-- What is asked of the objects in the variables beyond being fit to be flushed. -/
structure Needs where
  order : OrderFact
  reseller : Reseller → Prop
  payment : Payment → Prop

def Needs.any : Needs := ⟨.any, fun _ => True, fun _ => True⟩

/-- An order that may be flushed. -/
structure Sight.Order (v : Sight) (ob : Obj Order) : Prop where
  proper : ob.cur.Proper
  evolves : ∃ d ∈ v.orders, ob.db = some d ∧ d.Evolves ob.cur

structure Sight.Reseller (v : Sight) (ob : Obj Reseller) : Prop where
  proper : ob.cur.Proper
  evolves : ∃ d ∈ v.resellers, ob.db = some d ∧ d.Evolves ob.cur

structure Tidy (M : Needs) (s : Session) (v : Sight) : Prop where
  order : ∀ ob, s.order = some ob → v.Order ob ∧ M.order.holds ob
  reseller : ∀ ob, s.reseller = some ob → v.Reseller ob ∧ M.reseller ob.cur
  payment : ∀ ob, s.payment = some ob → (∀ d, ob.db = some d → d.Evolves ob.cur) ∧ M.payment ob.cur
  trial : ∀ ob, s.trial = some ob → ∀ d, ob.db = some d → d.Evolves ob.cur
  user : ∀ ob, s.user = some ob → ∀ d, ob.db = some d → d.Evolves ob.cur
  pending : ∀ st ∈ s.pending, st.Lawful v

section Tidy

variable {M M' : Needs} {s : Session} {v v' : Sight} {st : Stmt}

theorem Sight.Order.mono {ob : Obj ResellerBot.Order} (h : v.Order ob) (hv : v.Sub v') :
    v'.Order ob := by
  obtain ⟨hp, d, hd, hdb, hev⟩ := h
  exact ⟨hp, d, hv.orders hd, hdb, hev⟩

theorem Sight.Reseller.mono {ob : Obj ResellerBot.Reseller} (h : v.Reseller ob) (hv : v.Sub v') :
    v'.Reseller ob := by
  obtain ⟨hp, d, hd, hdb, hev⟩ := h
  exact ⟨hp, d, hv.resellers hd, hdb, hev⟩

theorem Tidy.mono (h : Tidy M s v) (hv : v.Sub v') : Tidy M s v' :=
  { h with
    order := fun ob hob => ⟨(h.order ob hob).1.mono hv, (h.order ob hob).2⟩
    reseller := fun ob hob => ⟨(h.reseller ob hob).1.mono hv, (h.reseller ob hob).2⟩
    pending := fun st hst => (h.pending st hst).mono hv }

theorem Tidy.imp (h : Tidy M s v) (ho : ∀ ob, M.order.holds ob → M'.order.holds ob)
    (hr : ∀ r, M.reseller r → M'.reseller r) (hp : ∀ p, M.payment p → M'.payment p) :
    Tidy M' s v :=
  { h with
    order := fun ob hob => ⟨(h.order ob hob).1, ho ob (h.order ob hob).2⟩
    reseller := fun ob hob => ⟨(h.reseller ob hob).1, hr _ (h.reseller ob hob).2⟩
    payment := fun ob hob => ⟨(h.payment ob hob).1, hp _ (h.payment ob hob).2⟩ }

theorem Tidy.any (h : Tidy M s v) : Tidy .any s v :=
  h.imp (fun _ _ => trivial) (fun _ _ => trivial) fun _ _ => trivial

/-- A session without objects. -/
theorem Tidy.expire (s : Session) (b : Bool) (v : Sight) : Tidy M (s.expire b) v := by
  constructor <;> rintro _ ⟨⟩

theorem Tidy.empty (v : Sight) : Tidy M Session.empty v := by
  constructor <;> rintro _ ⟨⟩

/-! ### Flushes -/

theorem mem_stmtsOf {α : Type} {sl : Slot α} (h : st ∈ s.stmtsOf sl) :
    ∃ ob, sl.get s = some ob ∧ st ∈ sl.stmts ob := by
  unfold Session.stmtsOf at h
  cases hg : sl.get s with
  | none => simp [hg] at h
  | some ob => exact ⟨ob, rfl, by simpa [hg] using h⟩

/-- The flush of an object that has been changed contains its update. -/
theorem update_mem_updated {α : Type} [DecidableEq α] {update : α → α → Stmt}
    {insert : α → List Stmt} {ob : Obj α} {d : α} (hdb : ob.db = some d) (hd : d ≠ ob.cur) :
    update d ob.cur ∈ updated update insert ob := by
  unfold updated
  rw [hdb]
  simp [hd]

theorem Tidy.lawful_order (h : Tidy M s v) (hst : st ∈ s.stmtsOf .order) : st.Lawful v := by
  obtain ⟨ob, hob, hst⟩ := mem_stmtsOf hst
  obtain ⟨hp, d, hd, hdb, hev⟩ := (h.order ob hob).1
  change st ∈ updated .updateOrder (fun _ => []) ob at hst
  rcases mem_updated hst with ⟨d', hd', rfl⟩ | ⟨hdb', -⟩
  · obtain rfl := Option.some.inj (hdb.symm.trans hd')
    exact ⟨hd, hev, hp⟩
  · exact absurd (hdb.symm.trans hdb') (by simp)

theorem Tidy.lawful_reseller (h : Tidy M s v) (hst : st ∈ s.stmtsOf .reseller) : st.Lawful v := by
  obtain ⟨ob, hob, hst⟩ := mem_stmtsOf hst
  obtain ⟨hp, d, hd, hdb, hev⟩ := (h.reseller ob hob).1
  change st ∈ updated .updateReseller (fun r => [.insertReseller r]) ob at hst
  rcases mem_updated hst with ⟨d', hd', rfl⟩ | ⟨hdb', -⟩
  · obtain rfl := Option.some.inj (hdb.symm.trans hd')
    exact ⟨hd, hev, hp⟩
  · exact absurd (hdb.symm.trans hdb') (by simp)

theorem Tidy.lawful_payment (h : Tidy M s v) (hst : st ∈ s.stmtsOf .payment) : st.Lawful v := by
  obtain ⟨ob, hob, hst⟩ := mem_stmtsOf hst
  change st ∈ updated .updatePayment (fun _ => []) ob at hst
  rcases mem_updated hst with ⟨d, hd, rfl⟩ | ⟨-, hins⟩
  · exact (h.payment ob hob).1 d hd
  · cases hins

theorem Tidy.lawful_trial (h : Tidy M s v) (hst : st ∈ s.stmtsOf .trial) : st.Lawful v := by
  obtain ⟨ob, hob, hst⟩ := mem_stmtsOf hst
  change st ∈ updated .updateTrial (fun r => [.insertTrial r]) ob at hst
  rcases mem_updated hst with ⟨d, hd, rfl⟩ | ⟨-, hins⟩
  · exact h.trial ob hob d hd
  · rw [List.mem_singleton.mp hins]
    trivial

theorem Tidy.lawful_user (h : Tidy M s v) (hst : st ∈ s.stmtsOf .user) : st.Lawful v := by
  obtain ⟨ob, hob, hst⟩ := mem_stmtsOf hst
  change st ∈ updated .updateUser (fun u => [.insertUser u]) ob at hst
  rcases mem_updated hst with ⟨d, hd, rfl⟩ | ⟨-, hins⟩
  · exact h.user ob hob d hd
  · rw [List.mem_singleton.mp hins]
    trivial

theorem Tidy.lawful (h : Tidy M s v) : ∀ st ∈ s.unflushed, st.Lawful v := by
  intro st hst
  simp only [Session.unflushed, List.mem_append] at hst
  rcases hst with ((((hst | hst) | hst) | hst) | hst) | hst
  · exact h.pending st hst
  · exact h.lawful_order hst
  · exact h.lawful_reseller hst
  · exact h.lawful_payment hst
  · exact h.lawful_trial hst
  · exact h.lawful_user hst

/-- An order that has been flushed has been seen as it is. -/
theorem Sight.Order.flushed {ob : Obj ResellerBot.Order} (h : v.Order ob)
    (hob : s.order = some ob) :
    (v.wroteAll s.unflushed).Order (Session.clean ob) := by
  obtain ⟨hp, d, hd, hdb, hev⟩ := h
  refine ⟨hp, ob.cur, ?_, rfl, .refl _⟩
  by_cases hcur : d = ob.cur
  · exact hcur ▸ (sub_wroteAll v _).orders hd
  · have hst : Stmt.updateOrder d ob.cur ∈ s.unflushed := by
      have hmem : Stmt.updateOrder d ob.cur ∈ s.stmtsOf .order := by
        simp only [Session.stmtsOf, Slot.order, hob, Option.map_some, Option.getD_some]
        exact update_mem_updated hdb hcur
      simp only [Session.unflushed, List.mem_append]
      exact .inl (.inl (.inl (.inl (.inr hmem))))
    exact (wrote_sub_wroteAll hst).orders (Set.mem_union_right _ (List.mem_singleton.mpr rfl))

theorem Sight.Reseller.flushed {ob : Obj ResellerBot.Reseller} (h : v.Reseller ob)
    (hob : s.reseller = some ob) : (v.wroteAll s.unflushed).Reseller (Session.clean ob) := by
  obtain ⟨hp, d, hd, hdb, hev⟩ := h
  refine ⟨hp, ob.cur, ?_, rfl, .refl _⟩
  by_cases hcur : d = ob.cur
  · exact hcur ▸ (sub_wroteAll v _).resellers hd
  · have hst : Stmt.updateReseller d ob.cur ∈ s.unflushed := by
      have hmem : Stmt.updateReseller d ob.cur ∈ s.stmtsOf .reseller := by
        simp only [Session.stmtsOf, Slot.reseller, hob, Option.map_some, Option.getD_some]
        exact update_mem_updated hdb hcur
      simp only [Session.unflushed, List.mem_append]
      exact .inl (.inl (.inl (.inr hmem)))
    exact (wrote_sub_wroteAll hst).resellers (Set.mem_union_right _ (List.mem_singleton.mpr rfl))

theorem Tidy.flushed (h : Tidy M s v) : Tidy M s.flushed (v.wroteAll s.unflushed) where
  order := by
    intro ob' hob'
    obtain ⟨ob, hob, rfl⟩ := Option.map_eq_some_iff.mp hob'
    exact ⟨(h.order ob hob).1.flushed hob, M.order.clean ob (h.order ob hob).2⟩
  reseller := by
    intro ob' hob'
    obtain ⟨ob, hob, rfl⟩ := Option.map_eq_some_iff.mp hob'
    exact ⟨(h.reseller ob hob).1.flushed hob, (h.reseller ob hob).2⟩
  payment := by
    intro ob' hob'
    obtain ⟨ob, hob, rfl⟩ := Option.map_eq_some_iff.mp hob'
    refine ⟨?_, (h.payment ob hob).2⟩
    rintro d ⟨⟩
    exact .refl _
  trial := by
    intro ob' hob'
    obtain ⟨ob, -, rfl⟩ := Option.map_eq_some_iff.mp hob'
    rintro d ⟨⟩
    exact .refl _
  user := by
    intro ob' hob' d hd
    obtain ⟨ob, -, hob⟩ := Option.bind_eq_some_iff.mp hob'
    obtain ⟨_, -, rfl⟩ := Option.map_eq_some_iff.mp hob
    cases hd
    exact .refl _
  pending := fun _ hst => nomatch hst

end Tidy

/-! ## Triples -/

/-- Since then everything has been lost, or nothing that was seen has been forgotten. -/
def Onward (s₀ : Session) (v₀ : Sight) (s : Session) (v : Sight) : Prop :=
  s₀.epoch < s.epoch ∨ s₀.epoch = s.epoch ∧ v₀.Sub v

/-- What is known of the rows that were loaded in epoch `ep`. -/
def Loaded (ep : ℕ) (K : Sight → Prop) (s : Session) (v : Sight) : Prop :=
  ep ≤ s.epoch ∧ (s.epoch = ep → K v)

/-- From `P` the program keeps the ledger and ends in `Q`, or raises and leaves a tidy session. -/
def Abides {α : Type} (P : Session → Sight → Prop) (m : Bot α) (Q : α → Session → Sight → Prop) :
    Prop :=
  ∀ s₀ v₀, Act.Holds ledger (fun s v => P s v ∧ Onward s₀ v₀ s v) m
    (fun a s v => Q a s v ∧ Onward s₀ v₀ s v) fun _ s v => Tidy .any s v ∧ Onward s₀ v₀ s v

section Onward

variable {s s₁ s₂ : Session} {v v₁ v₂ : Sight} {K : Sight → Prop} {ep : ℕ}

theorem Onward.refl (s : Session) (v : Sight) : Onward s v s v := .inr ⟨rfl, .refl v⟩

theorem Onward.trans (h : Onward s v s₁ v₁) (h' : Onward s₁ v₁ s₂ v₂) : Onward s v s₂ v₂ := by
  rcases h with h | ⟨he, hv⟩
  · rcases h' with h' | ⟨he', -⟩
    · exact .inl (h.trans h')
    · exact .inl (he' ▸ h)
  · rcases h' with h' | ⟨he', hv'⟩
    · exact .inl (he ▸ h')
    · exact .inr ⟨he.trans he', hv.trans hv'⟩

theorem Onward.of_sub (he : s₁.epoch = s.epoch) (hv : v.Sub v₁) : Onward s v s₁ v₁ :=
  .inr ⟨he.symm, hv⟩

theorem Onward.of_lt (he : s.epoch < s₁.epoch) : Onward s v s₁ v₁ := .inl he

theorem Loaded.later (h : Loaded ep K s v) (hK : ∀ v v', v.Sub v' → K v → K v')
    (hl : Onward s v s₁ v₁) : Loaded ep K s₁ v₁ := by
  rcases hl with hl | ⟨he, hv⟩
  · exact ⟨h.1.trans hl.le, fun he => absurd (he ▸ hl) (Nat.not_lt.mpr h.1)⟩
  · exact ⟨he ▸ h.1, fun he' => hK v v₁ hv (h.2 (he.trans he'))⟩

end Onward

namespace Abides

variable {α β : Type} {P P' : Session → Sight → Prop} {Q Q' : α → Session → Sight → Prop}
  {Q₂ : β → Session → Sight → Prop} {m : Bot α} {f : α → Bot β}

theorem pure {a : α} (h : ∀ s v, P s v → Q a s v) : Abides P (Pure.pure a : Bot α) Q :=
  fun _ _ => Act.Holds.pure fun s v hP => ⟨h s v hP.1, hP.2⟩

theorem raise {e : Err} (h : ∀ s v, P s v → Tidy .any s v) : Abides P (Act.raise e : Bot α) Q :=
  fun _ _ => Act.Holds.raise fun s v hP => ⟨h s v hP.1, hP.2⟩

theorem bind (hm : Abides P m Q) (hf : ∀ a, Abides (Q a) (f a) Q₂) : Abides P (m >>= f) Q₂ :=
  fun s₀ v₀ => (hm s₀ v₀).bind fun a => hf a s₀ v₀

theorem conseq (hm : Abides P' m Q') (hP : ∀ s v, P s v → P' s v)
    (hQ : ∀ a s v, Q' a s v → Q a s v) : Abides P m Q :=
  fun s₀ v₀ => (hm s₀ v₀).conseq (fun s v h => ⟨hP s v h.1, h.2⟩)
    (fun a s v h => ⟨hQ a s v h.1, h.2⟩) fun _ _ _ h => h

theorem pre (hm : Abides P' m Q) (hP : ∀ s v, P s v → P' s v) : Abides P m Q :=
  hm.conseq hP fun _ _ _ h => h

theorem post (hm : Abides P m Q') (hQ : ∀ a s v, Q' a s v → Q a s v) : Abides P m Q :=
  hm.conseq (fun _ _ h => h) hQ

theorem attempt (hm : Abides P m Q) : Abides P (Act.attempt m : Bot (Except Err α)) (fun
    | .ok a => Q a
    | .error _ => Tidy .any) := by
  intro s₀ v₀
  refine (Act.Holds.attempt (hm s₀ v₀)).post ?_
  rintro (e | a) s v h
  · exact h
  · exact h

theorem when {b : Bool} {m : Bot Unit} {Q : Session → Sight → Prop}
    (hm : b = true → Abides P m fun _ => Q) (hb : b = false → ∀ s v, P s v → Q s v) :
    Abides P (Act.when b m) fun _ => Q :=
  fun s₀ v₀ => Act.Holds.when (Q := fun s v => Q s v ∧ Onward s₀ v₀ s v) (fun h => hm h s₀ v₀)
    fun h s v hP => ⟨hb h s v hP.1, hP.2⟩

theorem ite {c : Prop} [Decidable c] {m' : Bot α} (hm : c → Abides P m Q)
    (hm' : ¬c → Abides P m' Q) : Abides P (if c then m else m') Q := by
  by_cases h : c
  · rw [if_pos h]
    exact hm h
  · rw [if_neg h]
    exact hm' h

theorem outcome {r : Except Err α} (h : ∀ s v, P s v → Tidy .any s v) :
    Abides P (Act.outcome r) fun a s v => r = .ok a ∧ P s v :=
  fun _ _ => Act.Holds.outcome (fun _ hr _ _ hP => ⟨⟨hr, hP.1⟩, hP.2⟩)
    fun _ _ s v hP => ⟨h s v hP.1, hP.2⟩

theorem forEach {f : β → Bot Unit} {xs : List β} (hf : ∀ x ∈ xs, Abides P (f x) fun _ => P) :
    Abides P (Act.forEach f xs) fun _ => P := by
  induction xs with
  | nil => exact .pure fun _ _ h => h
  | cons x xs ih =>
    exact (hf x List.mem_cons_self).bind fun _ => ih fun y hy => hf y (List.mem_cons_of_mem _ hy)

theorem searchFor {f : Bot (Option α)} (hf : Abides P f (Act.Found Q P)) (n : ℕ) :
    Abides P (Act.searchFor f n) (Act.Found Q P) := by
  induction n with
  | zero => exact .pure fun _ _ h => h
  | succ n ih =>
    refine hf.bind fun r => ?_
    cases r with
    | some a => exact .pure fun _ _ h => h
    | none => exact ih

theorem fact {p : Prop} (h : p → Abides P m Q) : Abides (fun s v => p ∧ P s v) m Q :=
  fun s₀ v₀ s v hP => h hP.1.1 s₀ v₀ s v ⟨hP.1.2, hP.2⟩

/-- What is known of loaded rows outlives every program that keeps the ledger. -/
theorem frame {ep : ℕ} {K : Sight → Prop} (hm : Abides P m Q)
    (hK : ∀ v v', v.Sub v' → K v → K v') :
    Abides (fun s v => P s v ∧ Loaded ep K s v) m fun a s v => Q a s v ∧ Loaded ep K s v := by
  rintro s₀ v₀ s v ⟨⟨hP, hL⟩, hl⟩
  refine (hm s v s v ⟨hP, .refl s v⟩).mono ?_
  rintro ⟨e | a, s'⟩ v' ⟨hQ, hl'⟩
  · exact ⟨hQ, hl.trans hl'⟩
  · exact ⟨⟨hQ, hL.later hK hl'⟩, hl.trans hl'⟩

/-! ### Requests that pass -/

/-- A request that neither needs nor changes what has been seen. -/
theorem ask {e : Ev} (hpre : ∀ s v, P s v → v.Allows e)
    (hnext : ∀ (v : Sight) (r : Resp e), v.after e r = v) :
    Abides P (ResellerBot.ask e) fun _ => P := by
  intro s₀ v₀
  refine Act.Holds.request (fun s v h => hpre s v h.1) ?_
  rintro s v r v' hP ⟨rfl, -⟩
  rwa [hnext]

theorem now : Abides P ResellerBot.now fun _ => P :=
  ask (fun _ _ _ => trivial) fun _ _ => rfl

theorem call {why : Cause} {c : Call} (hpre : ∀ s v, P s v → why.Paid v)
    (hX : ∀ s v, P s v → Tidy .any s v) : Abides P (ResellerBot.call why c) fun _ => P :=
  (ask (e := .call why c) hpre fun _ _ => rfl).bind fun _ => (outcome hX).post fun _ _ _ h => h.2

theorem getAdmin {username : Option String} (hX : ∀ s v, P s v → Tidy .any s v) :
    Abides P (ResellerBot.getAdmin username) fun _ => P :=
  call (fun _ _ _ => trivial) hX

theorem sendMessage {chat : ℤ} (hX : ∀ s v, P s v → Tidy .any s v) :
    Abides P (ResellerBot.sendMessage chat) fun _ => P :=
  (ask (e := .send chat) (fun _ _ _ => trivial) fun _ _ => rfl).bind fun _ =>
    (outcome hX).post fun _ _ _ h => h.2

theorem sendMessages {chats : List ℤ} (hX : ∀ s v, P s v → Tidy .any s v) :
    Abides P (Act.forEach ResellerBot.sendMessage chats) fun _ => P :=
  forEach fun _ _ => sendMessage hX

theorem generatePassword {forbidden : List String} :
    Abides P (ResellerBot.generatePassword forbidden) fun _ => P :=
  ask (fun _ _ _ => trivial) fun _ _ => rfl

theorem drawCandidate {telegramUsername : Option String} :
    Abides P (ResellerBot.drawCandidate telegramUsername) fun _ => P :=
  (ask (e := .randbelow 9000) (fun _ _ _ => trivial) fun _ _ => rfl).bind fun _ =>
    pure fun _ _ h => h

/-- Whether a message has been delivered or not, nothing else has happened. -/
theorem notify {chat : ℤ} : Abides P (ResellerBot.notify chat) fun _ => P := by
  intro s₀ v₀
  have hsend : Act.Holds ledger (fun s v => P s v ∧ Onward s₀ v₀ s v) (ResellerBot.sendMessage chat)
      (fun _ s v => P s v ∧ Onward s₀ v₀ s v) fun _ s v => P s v ∧ Onward s₀ v₀ s v := by
    refine (Act.Holds.request (e := Ev.send chat) (Q := fun _ s v => P s v ∧ Onward s₀ v₀ s v)
      (fun _ _ _ => trivial) ?_).bind fun r => ?_
    · rintro s v r v' hP ⟨rfl, -⟩
      exact hP
    · exact Act.Holds.outcome (fun _ _ _ _ h => h) fun _ _ _ _ h => h
  refine hsend.attempt.bind fun r => ?_
  rcases r with e | _
  · exact .pure fun _ _ h => h
  · exact .pure fun _ _ h => h

theorem notifyOwners {owners : List ℤ} : Abides P (ResellerBot.notifyOwners owners) fun _ => P :=
  forEach fun _ _ => notify.bind fun _ => pure fun _ _ h => h

/-! ### Flushes, queries and statements -/

variable {M : Needs}

theorem flush : Abides (Tidy M) ResellerBot.flush fun _ => Tidy M := by
  rintro s₀ v₀ s v ⟨hT, hl⟩
  show Ok _ (ResellerBot.flush s) _ v
  unfold ResellerBot.flush
  simp only [Act.state, Bind.bind, Act.bind, Prog.bind]
  have hflush : Onward s v s.flushed (v.wroteAll s.unflushed) :=
    .of_sub rfl (Sight.sub_wroteAll v _)
  cases hb : s.broken with
  | true => exact ⟨hT.any, hl⟩
  | false =>
    have hdone := hT.flushed
    have hlawful := hT.lawful
    cases hu : s.unflushed with
    | nil =>
      rw [hu] at hdone hflush
      exact ⟨hdone, hl.trans hflush⟩
    | cons st sts =>
      rw [hu] at hdone hflush hlawful
      refine ⟨hlawful, ?_⟩
      rintro (e | _) v' ⟨rfl, -⟩
      · exact ⟨.expire s true _, hl.trans (.of_lt (Nat.lt_succ_self _))⟩
      · exact ⟨hdone, hl.trans hflush⟩

/-- What a query returns is proper, and has been seen. -/
theorem query {q : Query} : Abides (Tidy M) (ResellerBot.query q)
    fun r s v => (q.Proper r ∧ (Sight.nothing.read q r).Sub v) ∧ Tidy M s v := by
  refine flush.bind fun _ => ?_
  rintro s₀ v₀ s v ⟨hT, hl⟩
  refine ⟨trivial, ?_⟩
  rintro (e | r) v' ⟨rfl, hr⟩
  · exact ⟨hT.any, hl⟩
  · have hsub : v.Sub (v.read q r) := Sight.sub_read v q r
    exact ⟨⟨⟨hr, Sight.read_mono q r⟩, hT.mono hsub⟩, hl.trans (.of_sub rfl hsub)⟩

theorem queryTidy {q : Query} : Abides (Tidy M) (ResellerBot.query q) fun _ => Tidy M :=
  query.post fun _ _ _ h => h.2

theorem execute {st : Stmt} (hst : ∀ v, st.Lawful v) :
    Abides (Tidy M) (ResellerBot.execute st) fun _ => Tidy M := by
  refine flush.bind fun _ => ?_
  rintro s₀ v₀ s v ⟨hT, hl⟩
  refine ⟨hst v, ?_⟩
  rintro (e | n) v' ⟨rfl, -⟩
  · exact ⟨hT.any, hl⟩
  · exact ⟨hT, hl⟩

theorem commit : Abides (Tidy M) ResellerBot.commit fun _ => Tidy M := by
  refine flush.bind fun _ => ?_
  rintro s₀ v₀ s v ⟨hT, hl⟩
  refine ⟨trivial, ?_⟩
  rintro (e | _) v' ⟨rfl, -⟩
  · exact ⟨.expire s true _, hl.trans (.of_lt (Nat.lt_succ_self _))⟩
  · exact ⟨hT, hl⟩

theorem rollback : Abides P ResellerBot.rollback fun _ => Tidy M := by
  rintro s₀ v₀ s v ⟨-, hl⟩
  refine ⟨trivial, ?_⟩
  rintro _ v' ⟨rfl, -⟩
  exact ⟨.expire s false _, hl.trans (.of_lt (Nat.lt_succ_self _))⟩

/-! ### Objects -/

/-- A change of the session that leaves its epoch. -/
theorem modify {g : Session → Session} {Q : Session → Sight → Prop}
    (he : ∀ s, (g s).epoch = s.epoch)
    (h : ∀ s v, P s v → Q (g s) v) : Abides P (Act.modify g : Bot Unit) fun _ => Q :=
  fun _ _ => Act.Holds.modify fun s v hP =>
    ⟨h s v hP.1, hP.2.trans (.of_sub (he s) (.refl v))⟩

theorem add {st : Stmt} (hst : ∀ v, st.Lawful v) :
    Abides (Tidy M) (ResellerBot.add st) fun _ => Tidy M := by
  refine modify (fun _ => rfl) fun s v h => { h with pending := ?_ }
  exact forall_append h.pending (hst v)

theorem audit {action result : String} {orderId : Option ℕ} :
    Abides (Tidy M) (ResellerBot.audit action result orderId) fun _ => Tidy M :=
  add fun _ => trivial

theorem epoch : Abides P ResellerBot.epoch fun ep s v => s.epoch = ep ∧ P s v :=
  fun _ _ _ _ hP => ⟨⟨rfl, hP.1⟩, hP.2⟩

theorem read {sl : Slot β} (hX : ∀ s v, P s v → Tidy .any s v) :
    Abides P sl.read fun b s v => (∃ ob, sl.get s = some ob ∧ ob.cur = b) ∧ P s v := by
  rintro s₀ v₀ s v ⟨hP, hl⟩
  show Ok _ (sl.read s) _ v
  rw [Slot.read, Act.state_bind]
  cases hg : sl.get s with
  | some ob => exact ⟨⟨⟨ob, hg, rfl⟩, hP⟩, hl⟩
  | none => exact ⟨hX s v hP, hl⟩

end Abides

end ResellerBot
