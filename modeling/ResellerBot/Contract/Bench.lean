import ResellerBot.Contract.Session

/-!
# ResellerBot.Contract.Bench — the session of a worker on orders

`Bench` is the invariant of the reconciliation: what is not flushed yet are changes the contract
allows, the objects are as the worker knows the rows, and the orders still to come are untouched.
-/

open Interact

namespace ResellerBot

variable {k : Role} {sells : Product → Prop} {v : View}

/-! ## Flushes in parts -/

/-- Statements that teach nothing and need no permission. -/
def Stmt.quiet : Stmt → Bool
  | .insertAudit _ | .insertWarning _ | .insertLock _ | .updatePayment _ _ | .updateUser _ _
  | .insertUser _ => true
  | _ => false

theorem stmtOk_of_quiet {st : Stmt} (h : st.quiet) : StmtOk k sells v st := by
  cases st <;> trivial

theorem wrote_of_quiet {st : Stmt} (h : st.quiet) : v.wrote st = v := by
  cases st <;> first | rfl | cases h

theorem flushOk_append {xs ys : List Stmt} :
    FlushOk k sells v (xs ++ ys) ↔ FlushOk k sells v xs ∧ FlushOk k sells (v.wroteAll xs) ys := by
  induction xs generalizing v with
  | nil => simp [FlushOk, View.wroteAll]
  | cons st xs ih => simp [FlushOk, View.wroteAll, ih, and_assoc]

theorem wroteAll_append {xs ys : List Stmt} :
    v.wroteAll (xs ++ ys) = (v.wroteAll xs).wroteAll ys := by
  induction xs generalizing v with
  | nil => rfl
  | cons st xs ih => exact ih

theorem wroteAll_quiet {xs : List Stmt} (h : ∀ st ∈ xs, st.quiet) : v.wroteAll xs = v := by
  induction xs with
  | nil => rfl
  | cons st xs ih =>
    rw [View.wroteAll, wrote_of_quiet (h st (by simp))]
    exact ih fun st' h' => h st' (List.mem_cons_of_mem _ h')

theorem flushOk_quiet {xs : List Stmt} (h : ∀ st ∈ xs, st.quiet) : FlushOk k sells v xs := by
  induction xs with
  | nil => trivial
  | cons st xs ih =>
    have hq := h st (by simp)
    refine ⟨stmtOk_of_quiet hq, ?_⟩
    rw [wrote_of_quiet hq]
    exact ih fun st' h' => h st' (List.mem_cons_of_mem _ h')

section AfterFlush

variable (sts : List Stmt)

@[simp] theorem afterFlush_orders : (v.afterFlush sts).orders = (v.wroteAll sts).orders := by
  cases sts <;> rfl

@[simp] theorem afterFlush_resellers :
    (v.afterFlush sts).resellers = (v.wroteAll sts).resellers := by cases sts <;> rfl

@[simp] theorem afterFlush_trials : (v.afterFlush sts).trials = (v.wroteAll sts).trials := by
  cases sts <;> rfl

@[simp] theorem afterFlush_unsaved : (v.afterFlush sts).unsaved = (v.wroteAll sts).unsaved := by
  cases sts <;> rfl

@[simp] theorem afterFlush_phase : (v.afterFlush sts).phase = (v.wroteAll sts).phase := by
  cases sts <;> rfl

@[simp] theorem afterFlush_answers : (v.afterFlush sts).answers = (v.wroteAll sts).answers := by
  cases sts <;> rfl

end AfterFlush

/-! ## Changes under more knowledge -/

variable {v' : View} {o o' : Order} {r r' : Reseller}

theorem OrderChange.mono (h : OrderChange k sells v o o') (hp : v'.phase = v.phase)
    (hr : v'.resellers = v.resellers) (ha : v.answers ⊆ v'.answers)
    (hf : v.freeReseller ⊆ v'.freeReseller) : OrderChange k sells v' o o' := by
  cases h with
  | keep h1 h2 h3 => exact .keep h1 h2 h3
  | begin r n l p t tg h1 h2 h3 h4 h5 h6 h7 h8 h9 h10 h11 h12 h13 h14 h15 h16 =>
    exact .begin r n l p t tg (hp ▸ h1) h2 h3 (hr ▸ h4) h5 h6 h7 h8 h9 (ha h10) h11 h12 h13 h14
      h15 h16
  | reserve r n h1 h2 h3 h4 h5 h6 h7 h8 h9 =>
    exact .reserve r n (hp ▸ h1) h2 (hr ▸ h3) h4 h5 ⟨h6.1, hf h6.2, ha h6.3⟩ h7 h8 h9
  | finish r n l tg h1 h2 h3 h4 h5 h6 h7 h8 h9 h10 h11 h12 =>
    exact .finish r n l tg (hp ▸ h1) h2 h3 (hr ▸ h4) h5 h6 (ha h7) h8 h9 h10 h11 h12
  | provisioned r n l tg h1 h2 h3 h4 h5 h6 h7 h8 h9 h10 h11 h12 =>
    refine .provisioned r n l tg (hp ▸ h1) h2 h3 (hr ▸ h4) h5 h6 h7 (ha h8) h9 h10 h11 ?_
    exact h12.imp_right fun ⟨a, hm, hn⟩ => ⟨a, ha hm, hn⟩
  | decide h1 h2 h3 => exact .decide (hp ▸ h1) h2 h3
  | pay h1 h2 h3 => exact .pay h1 h2 h3

/-- A change is judged by status and snapshots. -/
theorem OrderChange.of_eq (h : OrderChange k sells v o o') {o'' : Order}
    (hs : o''.status = o'.status) (hb : o''.beforeSnapshot = o'.beforeSnapshot)
    (ha : o''.afterSnapshot = o'.afterSnapshot) : OrderChange k sells v o o'' := by
  cases h with
  | keep h1 h2 h3 => exact .keep (hs.trans h1) (hb.trans h2) (ha.trans h3)
  | begin r n l p t tg h1 h2 h3 h4 h5 h6 h7 h8 h9 h10 h11 h12 h13 h14 h15 h16 =>
    exact .begin r n l p t tg h1 h2 h3 h4 h5 h6 h7 h8 h9 h10 h11 h12 h13 (hs.trans h14)
      (hb.trans h15) (ha.trans h16)
  | reserve r n h1 h2 h3 h4 h5 h6 h7 h8 h9 =>
    exact .reserve r n h1 h2 h3 h4 h5 h6 (hs.trans h7) (hb.trans h8) (ha ▸ h9)
  | finish r n l tg h1 h2 h3 h4 h5 h6 h7 h8 h9 h10 h11 h12 =>
    exact .finish r n l tg h1 h2 h3 h4 h5 h6 h7 h8 h9 (hs.trans h10) (hb.trans h11) (ha.trans h12)
  | provisioned r n l tg h1 h2 h3 h4 h5 h6 h7 h8 h9 h10 h11 h12 =>
    exact .provisioned r n l tg h1 h2 h3 h4 h5 h6 h7 h8 h9 (hs.trans h10) (hb.trans h11) (ha ▸ h12)
  | decide h1 h2 h3 => exact .decide h1 (hs ▸ h2) h3
  | pay h1 h2 h3 => exact .pay h1 (hs.trans h2) h3

theorem ResellerChange.mono (h : ResellerChange k v r r') (ht : v'.trials = v.trials)
    (ha : v.answers ⊆ v'.answers) (hf : v.freeReseller ⊆ v'.freeReseller) :
    ResellerChange k v' r r' := by
  cases h with
  | reserve n h1 h2 h3 h4 => exact .reserve n h1 ⟨h2.1, hf h2.2, ha h2.3⟩ h3 h4
  | keep h1 h2 => exact .keep h1 h2
  | activate h1 h2 h3 => exact .activate h1 h2 h3
  | reactivate h1 h2 h3 => exact .reactivate h1 h2 h3
  | trial t h1 h2 h3 h4 h5 => exact .trial t h1 (ht ▸ h2) h3 h4 h5
  | expire h1 h2 h3 h4 => exact .expire h1 h2 h3 h4
  | suspend h1 h2 h3 h4 => exact .suspend h1 h2 h3 h4
  | resume h1 h2 h3 => exact .resume h1 h2 h3

theorem Phase.after_ne_closed {p : Phase} {a b : OrderStatus} (hp : p ≠ .closed)
    (h : b = a ∨ a.Reconciled b) : p.after a b ≠ .closed := by
  unfold Phase.after
  rcases h with rfl | h
  · simpa using hp
  · split_ifs <;> simp_all

/-! ## The invariant -/

/-- The variable `order` of a worker who knows `v`. -/
structure OrderSlot (k : Role) (sells : Product → Prop) (v : View) (rest : List Order)
    (ob : Obj Order) (o : Order) : Prop where
  loaded : ob.db = some o
  known : v.orders o.id = some o
  keys : o.SameKeys ob.cur
  change : OrderChange k sells v o ob.cur
  reconciles : ob.cur.status = o.status ∨ o.status.Reconciled ob.cur.status
  elsewhere : ∀ x ∈ rest, x.id ≠ o.id

structure ResellerSlot (k : Role) (v : View) (ob : Obj Reseller) (r : Reseller) : Prop where
  loaded : ob.db = some r
  known : v.resellers r.id = some r
  keys : r.SameKeys ob.cur
  change : ResellerChange k v r ob.cur

/-- A worker who has still to do the orders `rest`. -/
structure Bench (k : Role) (sells : Product → Prop) (rest : List Order) (s : Session) (v : View) :
    Prop where
  sound : s.broken = false
  order : ∀ ob, s.order = some ob → ∃ o, OrderSlot k sells v rest ob o
  reseller : ∀ ob, s.reseller = some ob → ∃ r, ResellerSlot k v ob r
  product : ∀ ob, s.product = some ob → sells ob.cur
  pending : ∀ st ∈ s.pending, st.quiet
  payment : s.stmtsOf .payment = []
  trial : s.stmtsOf .trial = []
  user : s.stmtsOf .user = []
  phase : v.phase ≠ .closed
  untouched : ∀ x ∈ rest, v.orders x.id = some x ∧ x.Open ∧ x.id ∉ v.unsaved
  nodup : (rest.map Order.id).Nodup

section Stmts

variable {rest : List Order} {s : Session}

theorem stmtsOf_order_none (h : s.order = none) : s.stmtsOf .order = [] := by
  simp [Session.stmtsOf, Slot.order, h]

theorem stmtsOf_reseller_none (h : s.reseller = none) : s.stmtsOf .reseller = [] := by
  simp [Session.stmtsOf, Slot.reseller, h]

theorem OrderSlot.stmts {ob : Obj Order} (hs : OrderSlot k sells v rest ob o)
    (h : s.order = some ob) :
    (o = ob.cur ∧ s.stmtsOf .order = []) ∨ s.stmtsOf .order = [.updateOrder o ob.cur] := by
  by_cases he : o = ob.cur <;> simp [Session.stmtsOf, Slot.order, h, updated, hs.loaded, he]

theorem ResellerSlot.stmts {ob : Obj Reseller} (hs : ResellerSlot k v ob r)
    (h : s.reseller = some ob) :
    (r = ob.cur ∧ s.stmtsOf .reseller = []) ∨
      s.stmtsOf .reseller = [.updateReseller r ob.cur] := by
  by_cases he : r = ob.cur <;> simp [Session.stmtsOf, Slot.reseller, h, updated, hs.loaded, he]

end Stmts

/-- A settled object: nothing to flush. -/
theorem OrderSlot.settled {rest : List Order} {w : View} {ob : Obj Order} (hk : w.orders ob.cur.id = some ob.cur)
    (hx : ∀ x ∈ rest, x.id ≠ ob.cur.id) : OrderSlot k sells w rest (Session.clean ob) ob.cur :=
  ⟨rfl, hk, ⟨rfl, rfl, rfl⟩, .keep rfl rfl rfl, .inl rfl, hx⟩

theorem ResellerSlot.settled {w : View} {ob : Obj Reseller}
    (hk : w.resellers ob.cur.id = some ob.cur) : ResellerSlot k w (Session.clean ob) ob.cur :=
  ⟨rfl, hk, ⟨rfl, rfl⟩, .keep rfl rfl⟩

namespace Bench

variable {rest : List Order} {s : Session}

theorem unflushed (h : Bench k sells rest s v) :
    s.unflushed = s.pending ++ (s.stmtsOf .order ++ s.stmtsOf .reseller) := by
  simp [Session.unflushed, h.payment, h.trial, h.user]

/-- The view after the flush of the order: only what is known of that order changes. -/
theorem wroteOrder (h : Bench k sells rest s v) {w : View} (hw : w = v.wroteAll (s.stmtsOf .order)) :
    w.resellers = v.resellers ∧ w.trials = v.trials ∧ w.answers = v.answers ∧
    w.freeReseller = v.freeReseller ∧ w.phase ≠ .closed ∧
    (∀ x ∈ rest, w.orders x.id = v.orders x.id ∧ (x.id ∈ w.unsaved → x.id ∈ v.unsaved)) ∧
    ∀ ob, s.order = some ob → w.orders ob.cur.id = some ob.cur := by
  subst hw
  cases ho : s.order with
  | none => simp [stmtsOf_order_none ho, View.wroteAll, h.phase]
  | some ob =>
    obtain ⟨o, hs⟩ := h.order ob ho
    rcases hs.stmts ho with ⟨he, hst⟩ | hst
    · have := hs.known
      simp_all [View.wroteAll, h.phase]
    · rw [hst]
      refine ⟨rfl, rfl, rfl, rfl, Phase.after_ne_closed h.phase hs.reconciles, ?_, ?_⟩
      · intro x hx
        have hne := hs.elsewhere x hx
        refine ⟨Function.update_of_ne hne _ _, ?_⟩
        simp only [View.wroteAll, View.wrote]
        split_ifs
        · exact fun hm => (Set.mem_insert_iff.mp hm).resolve_left hne
        · exact id
      · rintro ob' ⟨⟩
        simp [View.wroteAll, View.wrote, hs.keys.id]

/-- The flush of the two rows. -/
theorem rows (h : Bench k sells rest s v) :
    FlushOk k sells v (s.stmtsOf .order ++ s.stmtsOf .reseller) := by
  rw [flushOk_append]
  constructor
  · cases ho : s.order with
    | none => rw [stmtsOf_order_none ho]; exact trivial
    | some ob =>
      obtain ⟨o, hs⟩ := h.order ob ho
      rcases hs.stmts ho with ⟨-, hst⟩ | hst <;> rw [hst]
      · exact trivial
      · exact ⟨⟨hs.keys, fun _ => hs.known, hs.change⟩, trivial⟩
  · cases hr : s.reseller with
    | none => rw [stmtsOf_reseller_none hr]; exact trivial
    | some ob =>
      obtain ⟨r, hs⟩ := h.reseller ob hr
      obtain ⟨hw1, hw2, hw3, hw4, -⟩ := h.wroteOrder rfl
      rcases hs.stmts hr with ⟨-, hst⟩ | hst <;> rw [hst]
      · exact trivial
      · refine ⟨⟨hs.keys, fun _ => by rw [hw1]; exact hs.known, ?_⟩, trivial⟩
        exact hs.change.mono hw2 hw3.ge hw4.ge

theorem ready (h : Bench k sells rest s v) : Ready k sells s v := by
  intro _
  rw [h.unflushed, flushOk_append, wroteAll_quiet h.pending]
  exact ⟨flushOk_quiet h.pending, h.rows⟩

/-- The view `w` knows the objects of the session as they are now, and no less of the orders still
to come than `v`. -/
structure Agrees (rest : List Order) (s : Session) (v w : View) : Prop where
  phase : w.phase ≠ .closed
  rest : ∀ x ∈ rest, w.orders x.id = v.orders x.id ∧ (x.id ∈ w.unsaved → x.id ∈ v.unsaved)
  order : ∀ ob, s.order = some ob → w.orders ob.cur.id = some ob.cur
  reseller : ∀ ob, s.reseller = some ob → w.resellers ob.cur.id = some ob.cur

theorem afterFlush (h : Bench k sells rest s v) :
    Agrees rest s v (v.afterFlush s.unflushed) ∧
      (v.afterFlush s.unflushed).answers = v.answers := by
  have hu : v.wroteAll s.unflushed =
      (v.wroteAll (s.stmtsOf .order)).wroteAll (s.stmtsOf .reseller) := by
    rw [h.unflushed, wroteAll_append, wroteAll_quiet h.pending, wroteAll_append]
  obtain ⟨hw1, hw2, hw3, hw4, hw5, hw6, hw7⟩ := h.wroteOrder rfl
  have hr : ∀ ob, s.reseller = some ob → ∃ r, ResellerSlot k v ob r := h.reseller
  generalize v.wroteAll (s.stmtsOf .order) = w at hu hw1 hw2 hw3 hw4 hw5 hw6 hw7
  have key : (w.wroteAll (s.stmtsOf .reseller)).answers = w.answers ∧
      (w.wroteAll (s.stmtsOf .reseller)).phase = w.phase ∧
      (w.wroteAll (s.stmtsOf .reseller)).orders = w.orders ∧
      (w.wroteAll (s.stmtsOf .reseller)).unsaved = w.unsaved ∧
      ∀ ob, s.reseller = some ob →
        (w.wroteAll (s.stmtsOf .reseller)).resellers ob.cur.id = some ob.cur := by
    cases ho : s.reseller with
    | none => simp [stmtsOf_reseller_none ho, View.wroteAll]
    | some ob =>
      obtain ⟨r, hs⟩ := hr ob ho
      rcases hs.stmts ho with ⟨he, hst⟩ | hst <;> rw [hst]
      · refine ⟨rfl, rfl, rfl, rfl, ?_⟩
        rintro ob' ⟨⟩
        rw [View.wroteAll, hw1, ← he]
        exact hs.known
      · simp only [View.wroteAll, View.wrote]
        refine ⟨?_, ?_, ?_, ?_, ?_⟩
        · split_ifs <;> rfl
        · split_ifs <;> rfl
        · split_ifs <;> rfl
        · split_ifs <;> rfl
        · rintro ob' ⟨⟩
          simp [hs.keys.id]
  obtain ⟨k1, k2, k3, k4, k5⟩ := key
  rw [← hu] at k1 k2 k3 k4 k5
  refine ⟨⟨?_, ?_, ?_, ?_⟩, by rw [afterFlush_answers, k1, hw3]⟩
  · rw [afterFlush_phase, k2]; exact hw5
  · intro x hx
    rw [afterFlush_orders, afterFlush_unsaved, k3, k4]
    exact hw6 x hx
  · intro ob ho
    rw [afterFlush_orders, k3]; exact hw7 ob ho
  · intro ob ho
    rw [afterFlush_resellers]; exact k5 ob ho

/-- The invariant after a flush, in any view that agrees with what is known then. -/
theorem flushed (h : Bench k sells rest s v) {w : View} (hw : Agrees rest s v w) :
    Bench k sells rest s.flushed w where
  sound := h.sound
  order := by
    intro ob hob
    obtain ⟨ob', ho, rfl⟩ := Option.map_eq_some_iff.mp hob
    obtain ⟨o, hs⟩ := h.order ob' ho
    exact ⟨_, .settled (hw.order ob' ho) fun x hx => hs.keys.id ▸ hs.elsewhere x hx⟩
  reseller := by
    intro ob hob
    obtain ⟨ob', ho, rfl⟩ := Option.map_eq_some_iff.mp hob
    exact ⟨_, .settled (hw.reseller ob' ho)⟩
  product := h.product
  pending := by intro st hst; exact absurd hst (by simp [Session.flushed])
  payment := (stmtsOf_flushed s).2.2.1
  trial := (stmtsOf_flushed s).2.2.2.1
  user := (stmtsOf_flushed s).2.2.2.2
  phase := hw.phase
  untouched := fun x hx =>
    ⟨(hw.rest x hx).1 ▸ (h.untouched x hx).1, (h.untouched x hx).2.1,
      fun hm => (h.untouched x hx).2.2 ((hw.rest x hx).2 hm)⟩
  nodup := h.nodup

/-- The invariant is not lost by learning more. -/
theorem mono (h : Bench k sells rest s v) {w : View} (ho : w.orders = v.orders)
    (hr : w.resellers = v.resellers) (ht : w.trials = v.trials) (hp : w.phase = v.phase)
    (hu : w.unsaved = v.unsaved) (ha : v.answers ⊆ w.answers)
    (hf : v.freeReseller ⊆ w.freeReseller) : Bench k sells rest s w where
  sound := h.sound
  order := by
    intro ob hob
    obtain ⟨o, hs⟩ := h.order ob hob
    exact ⟨o, hs.loaded, ho ▸ hs.known, hs.keys, hs.change.mono hp hr ha hf, hs.reconciles,
      hs.elsewhere⟩
  reseller := by
    intro ob hob
    obtain ⟨r, hs⟩ := h.reseller ob hob
    exact ⟨r, hs.loaded, hr ▸ hs.known, hs.keys, hs.change.mono ht ha hf⟩
  product := h.product
  pending := h.pending
  payment := h.payment
  trial := h.trial
  user := h.user
  phase := hp ▸ h.phase
  untouched := fun x hx => by rw [ho, hu]; exact h.untouched x hx
  nodup := h.nodup

theorem addQuiet (h : Bench k sells rest s v) {st : Stmt} (hst : st.quiet) :
    Bench k sells rest { s with pending := s.pending ++ [st] } v := by
  refine { h with pending := ?_ }
  intro st' hm
  rcases List.mem_append.mp hm with hm | hm
  · exact h.pending st' hm
  · rw [List.mem_singleton.mp hm]; exact hst

end Bench

/-- A worker with nothing to flush but statements that teach nothing. -/
structure Rested (k : Role) (sells : Product → Prop) (rest : List Order) (s : Session) (v : View) :
    Prop extends Bench k sells rest s v where
  orderClean : ∀ ob, s.order = some ob → ob.db = some ob.cur
  resellerClean : ∀ ob, s.reseller = some ob → ob.db = some ob.cur

section Rested

variable {rest : List Order} {s : Session} {w : View}

theorem Bench.rested (h : Bench k sells rest s v) (hw : Bench.Agrees rest s v w) :
    Rested k sells rest s.flushed w where
  toBench := h.flushed hw
  orderClean ob hob := by
    obtain ⟨ob', -, rfl⟩ := Option.map_eq_some_iff.mp hob
    rfl
  resellerClean ob hob := by
    obtain ⟨ob', -, rfl⟩ := Option.map_eq_some_iff.mp hob
    rfl

/-- With clean objects, only what is known of them and of the orders to come matters. -/
theorem Rested.view (h : Rested k sells rest s v) (hw : Bench.Agrees rest s v w) :
    Rested k sells rest s w where
  sound := h.sound
  order := by
    intro ob hob
    obtain ⟨o, hs⟩ := h.order ob hob
    have hc := h.orderClean ob hob
    obtain rfl : o = ob.cur := Option.some.inj (hs.loaded.symm.trans hc)
    exact ⟨_, hc, hw.order ob hob, ⟨rfl, rfl, rfl⟩, .keep rfl rfl rfl, .inl rfl, hs.elsewhere⟩
  reseller := by
    intro ob hob
    have hc := h.resellerClean ob hob
    exact ⟨_, hc, hw.reseller ob hob, ⟨rfl, rfl⟩, .keep rfl rfl⟩
  product := h.product
  pending := h.pending
  payment := h.payment
  trial := h.trial
  user := h.user
  phase := hw.phase
  untouched := fun x hx =>
    ⟨(hw.rest x hx).1 ▸ (h.untouched x hx).1, (h.untouched x hx).2.1,
      fun hm => (h.untouched x hx).2.2 ((hw.rest x hx).2 hm)⟩
  nodup := h.nodup
  orderClean := h.orderClean
  resellerClean := h.resellerClean

/-- A view that differs in nothing of the rows. -/
theorem Rested.agrees (h : Rested k sells rest s v) (ho : w.orders = v.orders)
    (hr : w.resellers = v.resellers) (hp : w.phase = v.phase) (hu : w.unsaved ⊆ v.unsaved) :
    Bench.Agrees rest s v w where
  phase := hp ▸ h.phase
  rest := fun x _ => ⟨by rw [ho], fun hm => hu hm⟩
  order := by
    intro ob hob
    obtain ⟨o, hs⟩ := h.order ob hob
    obtain rfl : o = ob.cur := Option.some.inj (hs.loaded.symm.trans (h.orderClean ob hob))
    rw [ho]; exact hs.known
  reseller := by
    intro ob hob
    obtain ⟨r, hs⟩ := h.reseller ob hob
    obtain rfl : r = ob.cur := Option.some.inj (hs.loaded.symm.trans (h.resellerClean ob hob))
    rw [hr]; exact hs.known

theorem Rested.unflushed (h : Rested k sells rest s v) : s.unflushed = s.pending := by
  have ho : s.stmtsOf .order = [] := by
    cases hs : s.order with
    | none => exact stmtsOf_order_none hs
    | some ob => simp [Session.stmtsOf, Slot.order, hs, updated, h.orderClean ob hs]
  have hr : s.stmtsOf .reseller = [] := by
    cases hs : s.reseller with
    | none => exact stmtsOf_reseller_none hs
    | some ob => simp [Session.stmtsOf, Slot.reseller, hs, updated, h.resellerClean ob hs]
  rw [h.toBench.unflushed, ho, hr, List.append_nil, List.append_nil]

/-- A flush of statements that teach nothing. -/
theorem Rested.afterFlush (h : Rested k sells rest s v) :
    v.afterFlush s.unflushed = v ∨ v.afterFlush s.unflushed = v.begun := by
  rw [h.unflushed]
  cases hp : s.pending with
  | nil => exact .inl rfl
  | cons st sts =>
    have hq : v.wroteAll (st :: sts) = v := wroteAll_quiet (hp ▸ h.pending)
    exact .inr (congrArg View.begun hq)

end Rested

end ResellerBot
